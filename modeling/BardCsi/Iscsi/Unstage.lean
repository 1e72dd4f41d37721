import BardCsi.Effect.Calls
import BardCsi.Iscsi.NodeWorld

/-!
Unstaging a volume again after an attempt that failed or was cut short. The record of a volume is
removed last, so an attempt can be repeated as long as the record is there. Without one the target
comes from the configuration. What stands in the way are the steps that want to find what an
earlier attempt has taken away, and a check that takes the session of another target for the own
one.
-/
namespace BardCsi.Iscsi.Node

open Effect Program

/-- Requests that do not touch records, sessions and attached units. -/
def Cmd.Aside : Cmd → Prop
  | .umount _ | .mkdirState | .openLock _ | .flock _ | .funlock _ | .listRecords | .readRecord _
  | .listSessions | .getsize _ | .evalSymlinks _ | .deleteNode _ _ => True
  | _ => False

structure Same (w w' : World) : Prop where
  records : w'.records = w.records
  sessions : w'.sessions = w.sessions
  attached : w'.attached = w.attached

theorem Same.refl (w : World) : Same w w := ⟨rfl, rfl, rfl⟩

theorem perform_same {who : ℕ} {c : Cmd} (hc : c.Aside) (w : World) :
    Same w (perform who c w).2 := by
  cases c with
  | umount path =>
    change Same w (performUmount path w).2
    unfold performUmount
    split_ifs
    · exact .refl w
    · exact ⟨rfl, rfl, rfl⟩
  | listSessions =>
    have hstate : (perform who .listSessions w).2 = w := by
      change (if w.sessions = [] then refused w .notFound else (.ok w.sessions, w) :
        Except RunError (List (String × String)) × World).2 = w
      by_cases h : w.sessions = []
      · rw [if_pos h]
        rfl
      · rw [if_neg h]
    rw [hstate]
    exact .refl w
  | readRecord path =>
    change Same w (orNotFound (Assoc.get w.records path) w).2
    cases Assoc.get w.records path <;> exact .refl w
  | getsize dev =>
    change Same w (performGetsize dev w).2
    unfold performGetsize
    cases w.unitOf dev <;> exact .refl w
  | evalSymlinks dev =>
    change Same w (performStat dev w).2
    unfold performStat
    cases w.unitOf dev <;> exact .refl w
  | mkdirState => exact .refl w
  | openLock iqn => exact .refl w
  | flock iqn => exact ⟨rfl, rfl, rfl⟩
  | funlock iqn => exact ⟨rfl, rfl, rfl⟩
  | listRecords => exact .refl w
  | deleteNode iqn portal => exact .refl w
  | _ => cases hc

/-- A reply, and the state after it. Where `strict` holds nothing fails. -/
def Replies (strict : Prop) (who : ℕ) (c : Cmd) (w : World) (r : c.Reply) (w' : World) : Prop :=
  (r, w') = perform who c w ∨
    ¬ strict ∧ (∃ f, c.failed f = some r) ∧ (w' = w ∨ w' = (perform who c w).2)

theorem step_replies {strict : Prop} {who : ℕ} {c : Cmd} {o : Outcome} {w : World}
    (ho : strict → o = .ok) : Replies strict who c w (step who c o w).1 (step who c o w).2 := by
  by_cases hstrict : strict
  · rw [ho hstrict]
    exact .inl rfl
  · rcases step_cases who c o w with h | ⟨f, hf, h⟩
    · exact .inl h
    · exact .inr ⟨hstrict, ⟨f, hf⟩, h⟩

theorem Replies.same {strict : Prop} {who : ℕ} {c : Cmd} {w w' : World} {r : c.Reply}
    (h : Replies strict who c w r w') (hc : c.Aside) : Same w w' := by
  rcases h with h | ⟨-, -, rfl | rfl⟩
  · rw [(Prod.mk.inj h).2]
    exact perform_same hc w
  · exact .refl _
  · exact perform_same hc w

theorem Replies.eq_or {strict : Prop} {who : ℕ} {c : Cmd} {w w' : World} {r : c.Reply}
    (h : Replies strict who c w r w') : r = (perform who c w).1 ∨ ¬ strict :=
  h.imp (fun h => (Prod.mk.inj h).1) fun h => h.1

theorem replies_readRecord {strict : Prop} {who : ℕ} {path : String} {w w' : World}
    {r : Except RunError RecordFile} (h : Replies strict who (.readRecord path) w r w') :
    (∃ file, r = .ok file ∧ Assoc.get w.records path = some file) ∨
      ∃ e, r = .error e ∧ (Assoc.get w.records path = none ∨ ¬ strict) := by
  rcases h with h | ⟨hstrict, ⟨f, hf⟩, -⟩
  · have hr : r = (orNotFound (Assoc.get w.records path) w).1 := (Prod.mk.inj h).1
    rcases hget : Assoc.get w.records path with _ | file
    · rw [hget] at hr
      exact .inr ⟨.notFound, hr, .inl rfl⟩
    · rw [hget] at hr
      exact .inl ⟨file, hr, rfl⟩
  · exact .inr ⟨.other f, (Option.some.inj hf).symm, .inr hstrict⟩

theorem replies_listSessions {strict : Prop} {who : ℕ} {w w' : World}
    {r : Except RunError (List (String × String))}
    (h : Replies strict who .listSessions w r w') :
    r = .ok w.sessions ∨ r = .error .notFound ∨ (∃ f, r = .error (.other f)) ∧ ¬ strict := by
  rcases h with h | ⟨hstrict, ⟨f, hf⟩, -⟩
  · have hr : r = (if w.sessions = [] then refused w .notFound else (.ok w.sessions, w) :
        Except RunError (List (String × String)) × World).1 := (Prod.mk.inj h).1
    by_cases hempty : w.sessions = []
    · rw [if_pos hempty] at hr
      exact .inr (.inl hr)
    · rw [if_neg hempty] at hr
      exact .inl hr
  · exact .inr (.inr ⟨⟨f, (Option.some.inj hf).symm⟩, hstrict⟩)

def Path.device (u : Path) : Device := .path u.portal u.iqn u.lun

/-- The record of a volume that is attached over one portal. -/
def Path.record (u : Path) : StagedState := ⟨u.device, u.iqn, u.portal, [], [], none⟩

def config (b : Plugin) (vol : VolumeRef) : InstanceConfig := (b.instances vol.inst).getD .zero

/-- The unit of a volume, on the only portal of its instance. -/
structure Placed (b : Plugin) (vol : VolumeRef) (u : Path) : Prop where
  portal : (config b vol).portalList = [u.portal]
  iqn : derivedIQN (config b vol) vol = u.iqn
  lun : (config b vol).isTargetd = false → u.lun = "0"

/-- Units are attached over sessions. -/
def Coherent (w : World) : Prop := ∀ p ∈ w.attached, (p.iqn, p.portal) ∈ w.sessions

/-- No other staged volume has a record of the target. -/
def Alone (w : World) (stagingPath iqn : String) : Prop :=
  ∀ path st, Assoc.get w.records path = some (.json st) → path ≠ stagingPath → st.iqn ≠ iqn

/-- The name of the target is not a part of the name of a target with another session. -/
def Named (w : World) (u : Path) : Prop :=
  ∀ s ∈ w.sessions, s ≠ (u.iqn, u.portal) → Strings.contains s.1 u.iqn = false

/-- The volume is staged. -/
structure Staged (b : Plugin) (req : NodeUnstageRequest) (u : Path) (w : World) : Prop where
  path : req.stagingPath ≠ ""
  placed : Placed b req.volume u
  coherent : Coherent w
  attached : u ∈ w.attached
  record : Assoc.get w.records req.stagingPath =
    if b.stateDir = "" then none else some (.json u.record)

/-- The condition on the state that the first attempt starts from. -/
structure Separate (b : Plugin) (req : NodeUnstageRequest) (u : Path) (w : World) : Prop where
  alone : b.stateDir ≠ "" → Alone w req.stagingPath u.iqn
  named : (config b req.volume).isTargetd = true → Named w u

/-- What attempts leave behind: the record is there, or there is nothing left to be done. -/
structure Left (b : Plugin) (req : NodeUnstageRequest) (u : Path) (w : World) : Prop
    extends Separate b req u w where
  coherent : Coherent w
  record : b.stateDir ≠ "" ∧ Assoc.get w.records req.stagingPath = some (.json u.record) ∨
    (b.stateDir ≠ "" → u ∉ w.attached) ∧ Assoc.get w.records req.stagingPath = none

section Left

variable {b : Plugin} {req : NodeUnstageRequest} {u : Path} {w w' : World}

theorem Staged.left (hstaged : Staged b req u w) (hseparate : Separate b req u w) :
    Left b req u w := by
  refine ⟨hseparate, hstaged.coherent, ?_⟩
  have hrecord := hstaged.record
  split_ifs at hrecord with hdir
  · exact .inr ⟨fun h => absurd hdir h, hrecord⟩
  · exact .inl ⟨hdir, hrecord⟩

theorem Left.same (hleft : Left b req u w) (hsame : Same w w') : Left b req u w' := by
  obtain ⟨⟨halone, hnamed⟩, hcoherent, hrecord⟩ := hleft
  unfold Alone at halone
  unfold Named at hnamed
  unfold Coherent at hcoherent
  rw [← hsame.records] at halone hrecord
  rw [← hsame.sessions] at hnamed hcoherent
  rw [← hsame.attached] at hcoherent hrecord
  exact ⟨⟨halone, hnamed⟩, hcoherent, hrecord⟩

/-- The session of the volume is over. -/
def Off (u : Path) (w : World) : Prop := (u.iqn, u.portal) ∉ w.sessions

theorem Off.same (hoff : Off u w) (hsame : Same w w') : Off u w' := by
  unfold Off
  rw [hsame.sessions]
  exact hoff

theorem Off.not_attached (hoff : Off u w) (hcoherent : Coherent w) : u ∉ w.attached :=
  fun hmem => hoff (hcoherent u hmem)

theorem Left.logout (hleft : Left b req u w) (iqn portal : String) :
    Left b req u (performLogout iqn portal w).2 := by
  unfold performLogout
  split_ifs with hsession
  · obtain ⟨⟨halone, hnamed⟩, hcoherent, hrecord⟩ := hleft
    refine ⟨⟨halone, ?_⟩, ?_, ?_⟩
    · intro htargetd s hs
      exact hnamed htargetd s (List.mem_of_mem_filter hs)
    · intro p hp
      obtain ⟨hmem, hother⟩ := List.mem_filter.mp hp
      refine List.mem_filter.mpr ⟨hcoherent p hmem, ?_⟩
      simpa using hother
    · refine hrecord.imp id fun h => ⟨fun hdir hmem => ?_, h.2⟩
      exact h.1 hdir (List.mem_of_mem_filter hmem)
  · exact hleft

theorem Left.removeRecord (hleft : Left b req u w) (hoff : Off u w) :
    Left b req u { w with records := Assoc.erase w.records req.stagingPath } := by
  obtain ⟨⟨halone, hnamed⟩, hcoherent, -⟩ := hleft
  refine ⟨⟨?_, hnamed⟩, hcoherent, .inr ⟨fun _ => hoff.not_attached hcoherent, ?_⟩⟩
  · intro hdir path st hget hne
    refine halone hdir path st ?_ hne
    rwa [Assoc.get_erase_of_ne hne] at hget
  · exact Assoc.get_erase_self _ _

end Left

section Attempt

variable {b : Plugin} {req : NodeUnstageRequest} {u : Path} {strict : Prop} {who : ℕ} {α : Type}
variable {w : World} {P : α → World → Prop}

/-- An attempt of which nothing fails where `strict` holds. -/
def attempting (b : Plugin) (req : NodeUnstageRequest) (u : Path) (strict : Prop) :
    Contract Cmd Outcome World :=
  .alone (Left b req u) (fun _ o _ => strict → o = .ok) fun _ _ _ => True

/-- A part of the attempt that does not fail where nothing fails. -/
abbrev Goes {α : Type} (b : Plugin) (req : NodeUnstageRequest) (u : Path) (strict : Prop)
    (who : ℕ) (p : Prog α) (P : α → World → Prop) (w : World) : Prop :=
  p.Meets machine who (attempting b req u strict) (Ends P fun _ _ => ¬ strict) w

theorem goes_pure {a : α} (h : P a w) :
    Goes b req u strict who (.pure a) P w :=
  meets_pure_alone.mpr fun _ => h

theorem goes_fail {e : Err} (h : ¬ strict) :
    Goes b req u strict who (.fail e) P w :=
  meets_fail_alone.mpr fun _ => h

theorem goes_request {c : Cmd} {k : c.Reply → Prog α}
    (h : Left b req u w → ∀ r w', Replies strict who c w r w' →
      Left b req u w' ∧ Goes b req u strict who (k r) P w') :
    Goes b req u strict who (.request c k) P w := by
  refine meets_request_alone.mpr fun hleft o ho => ?_
  exact ⟨trivial, h hleft _ _ (step_replies ho)⟩

theorem goes_aside {c : Cmd} {k : c.Reply → Prog α} (hc : c.Aside)
    (h : Left b req u w → ∀ r w', Replies strict who c w r w' →
      Same w w' → Left b req u w' → Goes b req u strict who (k r) P w') :
    Goes b req u strict who (.request c k) P w := by
  refine goes_request fun hleft r w' hr => ?_
  have hsame := hr.same hc
  exact ⟨hleft.same hsame, h hleft r w' hr hsame (hleft.same hsame)⟩

theorem goes_orFail {r : Except RunError Unit} {msg : List Text} {k : Unit → Prog α}
    (hr : r = .ok () ∨ ¬ strict) (h : Goes b req u strict who (k ()) P w) :
    Goes b req u strict who ((orFail r msg).bind k) P w := by
  rcases r with e | a
  · exact goes_fail (hr.resolve_left (by simp))
  · exact h

theorem goes_lockTarget (iqn : String) (w : World) :
    Goes b req u strict who (lockTarget iqn) (fun _ _ => True) w := by
  refine goes_aside trivial fun _ r w₁ hr _ _ => goes_orFail hr.eq_or ?_
  refine goes_aside trivial fun _ r w₂ hr _ _ => goes_orFail hr.eq_or ?_
  refine goes_aside trivial fun _ r w₃ hr _ _ => ?_
  rcases hr.eq_or with rfl | hstrict
  · exact goes_pure trivial
  · cases r with
    | error e => exact goes_fail hstrict
    | ok a => exact goes_pure trivial

theorem goes_withTargetLock {p : Prog α} {iqn : String}
    (hp : ∀ w, Left b req u w → Goes b req u strict who p P w)
    (hstable : ∀ a w w', Same w w' → P a w → P a w') (hleft : Left b req u w) :
    Goes b req u strict who (withTargetLock b iqn p) P w := by
  unfold withTargetLock
  split_ifs
  · exact hp w hleft
  · refine Meets.withinIf (goes_lockTarget iqn w) (fun _ _ h => h)
      (fun w₁ hleft₁ _ => hp w₁ hleft₁) (fun r w₂ _ hr => ?_) ?_
    · refine meets_request_alone.mpr fun hleft₂ o ho => ?_
      have hreply : Replies strict who (.funlock iqn) w₂ _ _ := step_replies ho
      have hsame := hreply.same trivial
      refine ⟨trivial, hleft₂.same hsame, meets_pure_alone.mpr fun _ => ?_⟩
      cases r with
      | ok a => exact hstable a _ _ hsame hr
      | error e => exact hr
    · rintro r w₁ w₂ rfl h
      exact h

theorem goes_countRecords (hpath : req.stagingPath ≠ "") (hdir : b.stateDir ≠ "")
    (entries : List String) (n : ℕ) (w : World) :
    Goes b req u strict who (countRecords u.iqn req.stagingPath entries n)
      (fun n' _ => n' = n) w := by
  induction entries generalizing w with
  | nil => exact goes_pure rfl
  | cons entry rest ih =>
    unfold countRecords
    split_ifs with hown
    · exact ih w
    · refine goes_aside trivial fun hleft r w' hr _ _ => ?_
      rcases replies_readRecord hr with ⟨file, rfl, hget⟩ | ⟨e, rfl, -⟩
      · cases file with
        | corrupt => exact ih w'
        | json st =>
          have hne : st.iqn ≠ u.iqn :=
            hleft.alone hdir entry st hget fun h => hown ⟨hpath, h⟩
          change Goes b req u strict who
            (countRecords u.iqn req.stagingPath rest (if st.iqn = u.iqn then n + 1 else n)) _ w'
          rw [if_neg hne]
          exact ih w'
      · exact ih w'

theorem goes_otherRecordsForIQN (hpath : req.stagingPath ≠ "") (w : World) :
    Goes b req u strict who (otherRecordsForIQN b u.iqn req.stagingPath)
      (fun n _ => n = 0) w := by
  unfold otherRecordsForIQN
  split_ifs with hdir
  · exact goes_pure rfl
  · refine goes_aside trivial fun _ r w' hr _ _ => ?_
    rcases r with e | entries
    · have hstrict : ¬ strict := hr.eq_or.resolve_left (by simp [perform])
      cases e with
      | notFound => exact goes_pure rfl
      | _ => exact goes_fail hstrict
    · exact goes_countRecords hpath hdir entries 0 w'

theorem goes_logOut (w : World) :
    Goes b req u strict who (logOut u.iqn u.portal) (fun _ => Off u) w := by
  refine goes_request fun hleft r w' hr => ?_
  rcases hr with h | ⟨hstrict, ⟨f, hf⟩, hstate⟩
  · obtain ⟨rfl, rfl⟩ := Prod.mk.inj h
    refine ⟨hleft.logout u.iqn u.portal, ?_⟩
    change Goes b req u strict who
      (tolerating .notFound (performLogout u.iqn u.portal w).1 _) _ (performLogout _ _ w).2
    unfold performLogout
    split_ifs with hsession
    · exact goes_pure (by simp [Off, done, World.reap])
    · exact goes_pure (by simpa [Off, refused] using hsession)
  · obtain rfl : Except.error (.other f) = r := Option.some.inj hf
    refine ⟨?_, goes_fail hstrict⟩
    rcases hstate with rfl | rfl
    · exact hleft
    · exact hleft.logout u.iqn u.portal

theorem present_getsize {dev : Device} (h : w.unitOf dev = none) :
    present (performGetsize dev w).1 = false := by
  simp [performGetsize, h, present]

/-- The devices that an unstage may have for the volume. Only targetd leaves none. -/
def Known (b : Plugin) (req : NodeUnstageRequest) (u : Path) (dev : Option Device) : Prop :=
  dev = some u.device ∨ dev = none ∧ (config b req.volume).isTargetd = true

theorem goes_verifyGone {dev : Option Device} (hdev : Known b req u dev) (hoff : Off u w) :
    Goes b req u strict who (verifyGone u.iqn dev) (fun _ => Off u) w := by
  rcases hdev with rfl | ⟨rfl, htargetd⟩
  · refine goes_aside trivial fun hleft r w' hr hsame _ => ?_
    rcases hr.eq_or with hr | hstrict
    · have hunit : w.unitOf u.device = none := if_neg (hoff.not_attached hleft.coherent)
      have hgone : present r = false := by
        rw [hr]
        exact present_getsize hunit
      change Goes b req u strict who (if present r then _ else .pure ()) _ w'
      rw [if_neg (by simp [hgone])]
      exact goes_pure (hoff.same hsame)
    · change Goes b req u strict who (if present r then _ else .pure ()) _ w'
      exact .ite (fun _ => goes_fail hstrict) fun _ => goes_pure (hoff.same hsame)
  · refine goes_aside trivial fun hleft r w' hr hsame _ => ?_
    rcases replies_listSessions hr with rfl | rfl | ⟨⟨f, rfl⟩, hstrict⟩
    · -- every session that is left is another one
      have hnone : (w.sessions.any fun s => Strings.contains s.1 u.iqn) = false := by
        rw [List.any_eq_false]
        intro s hs
        rw [hleft.named htargetd s hs fun h => hoff (h ▸ hs)]
        simp
      change Goes b req u strict who
        (if w.sessions.any fun s => Strings.contains s.1 u.iqn then _ else .pure ()) _ w'
      rw [if_neg (by simp only [hnone]; simp)]
      exact goes_pure (hoff.same hsame)
    · exact goes_pure (hoff.same hsame)
    · exact goes_fail hstrict

theorem goes_clearState (hoff : Off u w) (hleft : Left b req u w) :
    Goes b req u strict who (clearState b req.stagingPath)
      (fun _ w' => strict → Off u w' ∧ Assoc.get w'.records req.stagingPath = none) w := by
  unfold clearState
  split_ifs with hdir
  · refine goes_pure fun _ => ⟨hoff, ?_⟩
    rcases hleft.record with h | h
    · exact absurd hdir h.1
    · exact h.2
  · refine goes_request fun hleft r w' hr => ?_
    rcases hr with h | ⟨hstrict, -, hstate⟩
    · obtain ⟨-, rfl⟩ := Prod.mk.inj h
      exact ⟨hleft.removeRecord hoff, goes_pure fun _ => ⟨hoff, Assoc.get_erase_self _ _⟩⟩
    · refine ⟨?_, goes_pure fun h => absurd h hstrict⟩
      rcases hstate with rfl | rfl
      · exact hleft
      · exact hleft.removeRecord hoff

theorem goes_unstageSingleTarget (hpath : req.stagingPath ≠ "") {dev : Option Device}
    (hdev : Known b req u dev) (hleft : Left b req u w) :
    Goes b req u strict who (unstageSingleTarget b req u.iqn u.portal dev)
      (fun _ w' => strict → Off u w' ∧ Assoc.get w'.records req.stagingPath = none) w := by
  refine goes_withTargetLock (fun w hleft => ?_) (fun _ w w' hsame h hstrict => ?_) hleft
  · refine (goes_otherRecordsForIQN hpath w).ends fun n w₁ _ hn => ?_
    subst hn
    refine (goes_logOut w₁).ends fun _ w₂ _ hoff => ?_
    refine (goes_verifyGone hdev hoff).ends fun _ w₃ _ hoff => ?_
    refine goes_aside trivial fun _ _ w₄ _ hsame hleft => ?_
    exact goes_clearState (hoff.same hsame) hleft
  · refine ⟨(h hstrict).1.same hsame, ?_⟩
    rw [hsame.records]
    exact (h hstrict).2

theorem goes_loadState (w : World) : Goes b req u strict who (loadState b req.stagingPath)
    (fun st _ => st = none ∨ st = some u.record) w := by
  unfold loadState
  split_ifs
  · exact goes_pure (.inl rfl)
  · refine goes_aside trivial fun hleft r w' hr _ _ => ?_
    rcases replies_readRecord hr with ⟨file, rfl, hget⟩ | ⟨e, rfl, -⟩
    · rcases hleft.record with ⟨-, hrecord⟩ | ⟨-, hnone⟩
      · rw [hget] at hrecord
        obtain rfl := Option.some.inj hrecord
        exact goes_pure (.inr rfl)
      · rw [hget] at hnone
        cases hnone
    · exact goes_pure (.inl rfl)

theorem unstageDerived_eq (hplaced : Placed b req.volume u) : unstageDerived b req =
    unstageSingleTarget b req u.iqn u.portal
      (if (config b req.volume).isTargetd then none else some u.device) := by
  have hdev : (config b req.volume).isTargetd = false → byPath u.portal u.iqn "0" = u.device := by
    intro h
    rw [Path.device, hplaced.lun h]
  have hlist := hplaced.portal
  have hiqn := hplaced.iqn
  unfold config at *
  unfold unstageDerived
  simp only [hlist, hiqn]
  split_ifs with htargetd
  · rfl
  · rw [hdev (by simpa using htargetd)]

/-- Every attempt leaves the volume in one of the states that an attempt can start from, and an
attempt of which nothing fails unstages it. -/
theorem goes_nodeUnstage (hpath : req.stagingPath ≠ "") (hplaced : Placed b req.volume u)
    (w : World) : Goes b req u strict who (nodeUnstage b req)
      (fun _ w' => strict → Off u w' ∧ Assoc.get w'.records req.stagingPath = none) w := by
  refine goes_aside trivial fun hleft r w₁ hr _ _ => ?_
  have hmounted : Goes b req u strict who
      (tolerating .notMounted r ["iscsi: umount ", req.stagingPath, ": "]) (fun _ _ => True)
      w₁ := by
    rcases hr with h | ⟨hstrict, -, -⟩
    · obtain ⟨rfl, -⟩ := Prod.mk.inj h
      change Goes b req u strict who (tolerating .notMounted (performUmount req.stagingPath w).1 _)
        _ w₁
      unfold performUmount
      split_ifs
      · exact goes_pure trivial
      · exact goes_pure trivial
    · rcases r with e | a
      · change Goes b req u strict who (if e = .notMounted then .pure () else .fail _) _ w₁
        exact .ite (fun _ => goes_pure trivial) fun _ => goes_fail hstrict
      · exact goes_pure trivial
  refine hmounted.ends fun _ w₂ _ _ => ?_
  refine (goes_loadState w₂).ends fun st w₃ hleft hst => ?_
  rcases hst with rfl | rfl
  · change Goes b req u strict who (unstageDerived b req) _ w₃
    rw [unstageDerived_eq hplaced]
    refine goes_unstageSingleTarget hpath ?_ hleft
    unfold Known
    split_ifs with htargetd
    · exact .inr ⟨rfl, htargetd⟩
    · exact .inl rfl
  · exact goes_unstageSingleTarget hpath (.inl rfl) hleft

end Attempt

/-- The states after attempts that failed or were cut short. -/
inductive Attempted (b : Plugin) (req : NodeUnstageRequest) (who : ℕ) (w : World) : World → Prop
  | start : Attempted b req who w w
  | again {v : World} (os : List Outcome) : Attempted b req who w v →
      (machine.exec who (nodeUnstage b req) os v).2.2 ≠ some (.ok ()) →
      Attempted b req who w (machine.exec who (nodeUnstage b req) os v).2.1

/-- The answers of a node on which nothing fails. -/
def clean (who : ℕ) : (c : Cmd) → World → c.Reply × World :=
  Program.answers machine who fun _ _ => .ok

/-- An attempt of which nothing fails succeeds, and nothing is left of the volume. -/
def Unstages (b : Plugin) (req : NodeUnstageRequest) (u : Path) (who : ℕ) (w : World) : Prop :=
  ∃ w', (nodeUnstage b req).eval (clean who) w = (.ok (), w') ∧ u ∉ w'.attached ∧
    Assoc.get w'.records req.stagingPath = none

section Converge

variable {b : Plugin} {req : NodeUnstageRequest} {u : Path} {who : ℕ} {w v : World}

theorem Attempted.left (h : Attempted b req who w v) (hpath : req.stagingPath ≠ "")
    (hplaced : Placed b req.volume u) (hleft : Left b req u w) : Left b req u v := by
  induction h with
  | start => exact hleft
  | @again v os _ _ ih =>
    have hgoes : Goes b req u False who (nodeUnstage b req) _ v := goes_nodeUnstage hpath hplaced v
    exact (hgoes.exec ih os fun _ _ h => h.elim).2.1

theorem Left.unstages (hleft : Left b req u w) (hpath : req.stagingPath ≠ "")
    (hplaced : Placed b req.volume u) : Unstages b req u who w := by
  have hgoes : Goes b req u True who (nodeUnstage b req) _ w := goes_nodeUnstage hpath hplaced w
  have hrun : Left b req u ((nodeUnstage b req).eval (clean who) w).2 ∧ Ends _ _
      ((nodeUnstage b req).eval (clean who) w).1 ((nodeUnstage b req).eval (clean who) w).2 :=
    hgoes.eval hleft fun _ _ _ => rfl
  obtain ⟨hend, hres⟩ := hrun
  rcases heval : (nodeUnstage b req).eval (clean who) w with ⟨r, w'⟩
  rw [heval] at hend hres
  cases r with
  | error e => exact absurd trivial hres
  | ok a =>
    obtain ⟨hoff, hnone⟩ := hres trivial
    exact ⟨w', heval, hoff.not_attached hend.coherent, hnone⟩

end Converge

section Stuck

variable {b : Plugin} {req : NodeUnstageRequest} {u : Path} {who : ℕ} {w : World} {α : Type}
variable {w' : World} {path iqn : String}

theorem eval_ask_of {c : Cmd} {k : c.Reply → Prog α} {r : c.Reply} (h : clean who c w = (r, w')) :
    ((run c).bind k).eval (clean who) w = (k r).eval (clean who) w' := by
  rw [run, eval_ask_bind, h]

/-- The steps under the lock, after the other records were counted. -/
def detachOrLogOut (b : Plugin) (req : NodeUnstageRequest) (iqn portal : String)
    (dev : Option Device) (shared : ℕ) : Prog Unit :=
  if shared > 0 then leaveSession b req.stagingPath dev
  else do
    logOut iqn portal
    verifyGone iqn dev
    let _ ← run (.deleteNode iqn portal)
    clearState b req.stagingPath

theorem nodeUnstage_eq : nodeUnstage b req = (unmount req.stagingPath).bind fun _ =>
    (loadState b req.stagingPath).bind (unstageWith b req) :=
  rfl

theorem eval_unmount (who : ℕ) (path : String) (w : World) :
    ∃ w', Same w w' ∧ (unmount path).eval (clean who) w = (.ok (), w') := by
  have hsame : Same w (perform who (.umount path) w).2 := by
    apply perform_same
    trivial
  refine ⟨(performUmount path w).2, hsame, ?_⟩
  change (tolerating .notMounted (performUmount path w).1 _ : Prog Unit).eval (clean who)
    (performUmount path w).2 = _
  unfold performUmount
  split_ifs
  · rfl
  · rfl

theorem clean_readRecord (path : String) (w : World) :
    clean who (.readRecord path) w = orNotFound (Assoc.get w.records path) w := rfl

theorem eval_loadState_some {st : StagedState} (hdir : b.stateDir ≠ "")
    (hget : Assoc.get w.records path = some (.json st)) :
    (loadState b path).eval (clean who) w = (.ok (some st), w) := by
  have hreply : clean who (.readRecord path) w = (.ok (.json st), w) := by
    rw [clean_readRecord, hget]
    rfl
  rw [loadState, if_neg hdir]
  exact (eval_ask_of hreply).trans rfl

theorem eval_loadState_none (hget : b.stateDir ≠ "" → Assoc.get w.records path = none) :
    (loadState b path).eval (clean who) w = (.ok none, w) := by
  rw [loadState]
  split_ifs with hdir
  · rfl
  · have hreply : clean who (.readRecord path) w = (.error .notFound, w) := by
      rw [clean_readRecord, hget hdir]
      rfl
    exact (eval_ask_of hreply).trans rfl

/-- The record of a path is one of the target. -/
def counts (w : World) (iqn path : String) : Bool :=
  match Assoc.get w.records path with
  | some (.json st) => st.iqn = iqn
  | _ => false

/-- How many records of the target there are, the own one apart. -/
def others (w : World) (iqn exclude : String) (entries : List String) : ℕ :=
  entries.countP fun e => ¬ (exclude ≠ "" ∧ e = exclude) ∧ counts w iqn e = true

theorem eval_countRecords (iqn exclude : String) (entries : List String) (n : ℕ) :
    (countRecords iqn exclude entries n).eval (clean who) w =
      (.ok (n + others w iqn exclude entries), w) := by
  induction entries generalizing n with
  | nil => rfl
  | cons entry rest ih =>
    by_cases hown : exclude ≠ "" ∧ entry = exclude
    · have hskip : others w iqn exclude (entry :: rest) = others w iqn exclude rest := by
        simp [others, hown]
      rw [countRecords, if_pos hown, ih, hskip]
    · have hadd : others w iqn exclude (entry :: rest) =
          others w iqn exclude rest + if counts w iqn entry then 1 else 0 := by
        simp only [others, List.countP_cons, hown, not_false_eq_true, true_and, decide_eq_true_eq]
      rw [countRecords, if_neg hown, hadd]
      rcases hget : Assoc.get w.records entry with _ | st | _
      · have hreply : clean who (.readRecord entry) w = (.error .notFound, w) := by
          rw [clean_readRecord, hget]
          rfl
        rw [if_neg (by simp [counts, hget])]
        exact (eval_ask_of hreply).trans (ih n)
      · have hreply : clean who (.readRecord entry) w = (.ok (.json st), w) := by
          rw [clean_readRecord, hget]
          rfl
        refine (eval_ask_of hreply).trans ((ih _).trans ?_)
        have hcounts : counts w iqn entry = decide (st.iqn = iqn) := by simp [counts, hget]
        by_cases hiqn : st.iqn = iqn
        · simp only [hcounts, hiqn, decide_true, if_true, Nat.add_assoc, Nat.add_comm 1]
        · simp [hcounts, hiqn]
      · have hreply : clean who (.readRecord entry) w = (.ok .corrupt, w) := by
          rw [clean_readRecord, hget]
          rfl
        rw [if_neg (by simp [counts, hget])]
        exact (eval_ask_of hreply).trans (ih n)

/-- The number that decides whether the session stays. -/
def shared (b : Plugin) (w : World) (iqn exclude : String) : ℕ :=
  if b.stateDir = "" then 0 else others w iqn exclude (w.records.map Prod.fst)

theorem eval_otherRecordsForIQN (iqn exclude : String) :
    (otherRecordsForIQN b iqn exclude).eval (clean who) w =
      (.ok (shared b w iqn exclude), w) := by
  rw [otherRecordsForIQN, shared]
  split_ifs with hdir
  · rfl
  · have hreply : clean who .listRecords w = (.ok (w.records.map Prod.fst), w) := rfl
    refine (eval_ask_of hreply).trans ((eval_countRecords iqn exclude _ 0).trans ?_)
    rw [Nat.zero_add]

theorem shared_eq_zero_iff (hpath : path ≠ "") :
    shared b w iqn path = 0 ↔ (b.stateDir ≠ "" → Alone w path iqn) := by
  rw [shared]
  split_ifs with hdir
  · simp [hdir]
  · simp only [others, List.countP_eq_zero, List.mem_map, decide_eq_true_eq, not_and, hdir,
      ne_eq, not_false_eq_true, forall_const, Alone]
    constructor
    · intro hnone other st hget hne hiqn
      refine hnone other ⟨(other, .json st), Assoc.mem_of_get hget, rfl⟩ (fun _ => hne) ?_
      simp [counts, hget, hiqn]
    · intro halone other _ hother hcounts
      have hne : other ≠ path := hother hpath
      rcases hget : Assoc.get w.records other with _ | st | _
      · simp [counts, hget] at hcounts
      · exact halone other st hget hne (by simpa [counts, hget] using hcounts)
      · simp [counts, hget] at hcounts

theorem shared_congr (h : w'.records = w.records) (iqn exclude : String) :
    shared b w' iqn exclude = shared b w iqn exclude := by
  unfold shared others counts
  rw [h]

theorem eval_lockTarget (iqn : String) (w : World) : (lockTarget iqn).eval (clean who) w =
    (.ok (), { w with holder := Function.update w.holder iqn (some who) }) := rfl

theorem eval_withTargetLock {p : Prog α}
    (h : ∀ w', Same w w' → ∃ e, (p.eval (clean who) w').1 = .error e) :
    ∃ e, ((withTargetLock b iqn p).eval (clean who) w).1 = .error e := by
  rw [withTargetLock]
  split_ifs
  · exact h w (.refl w)
  · obtain ⟨e, he⟩ := h { w with holder := Function.update w.holder iqn (some who) } ⟨rfl, rfl, rfl⟩
    have hrelease : ∀ w₂, (run (.funlock iqn) : Prog Unit).eval (clean who) w₂ =
        (.ok (), { w₂ with holder := Function.update w₂.holder iqn none }) := fun _ => rfl
    exact ⟨e, (congrArg Prod.fst
      (eval_within (eval_lockTarget iqn w) rfl (hrelease _))).trans he⟩

theorem eval_logOut (iqn portal : String) (w : World) :
    (logOut iqn portal).eval (clean who) w = (.ok (), (performLogout iqn portal w).2) := by
  change (tolerating .notFound (performLogout iqn portal w).1 _ : Prog Unit).eval (clean who)
    (performLogout iqn portal w).2 = _
  unfold performLogout
  split_ifs
  · rfl
  · rfl

theorem performLogout_records (iqn portal : String) (w : World) :
    (performLogout iqn portal w).2.records = w.records := by
  unfold performLogout
  split_ifs
  · rfl
  · rfl

theorem performLogout_attached (hcoherent : Coherent w) :
    u ∉ (performLogout u.iqn u.portal w).2.attached := by
  unfold performLogout
  split_ifs with hsession
  · simp [done, World.reap]
  · exact fun hmem => hsession (List.contains_iff_mem.mpr (hcoherent u hmem))

theorem performLogout_sessions (iqn portal : String) (w : World) :
    (performLogout iqn portal w).2.sessions = w.sessions.filter (· ≠ (iqn, portal)) := by
  unfold performLogout
  split_ifs with hsession
  · rfl
  · refine (List.filter_eq_self.mpr fun s hs => ?_).symm
    have hne : s ≠ (iqn, portal) := by
      rintro rfl
      exact hsession (List.contains_iff_mem.mpr hs)
    simpa using hne

theorem eval_verifyGone_session (who : ℕ) {s : String × String} (hs : s ∈ w.sessions)
    (hname : Strings.contains s.1 iqn = true) :
    ∃ e, (verifyGone iqn none).eval (clean who) w = (.error e, w) := by
  have hreply : clean who .listSessions w = (.ok w.sessions, w) := by
    change (if w.sessions = [] then refused w .notFound else (.ok w.sessions, w) :
      Except RunError (List (String × String)) × World) = _
    rw [if_neg (List.ne_nil_of_mem hs)]
    rfl
  have hactive : (sessionActiveForIQN iqn).eval (clean who) w = (.ok true, w) := by
    have hany : (w.sessions.any fun s => Strings.contains s.1 iqn) = true :=
      List.any_eq_true.mpr ⟨s, hs, hname⟩
    refine (eval_ask_of hreply).trans ?_
    change (Except.ok (w.sessions.any fun s => Strings.contains s.1 iqn), w) = _
    rw [hany]
  exact ⟨_, eval_attempt_bind_of hactive⟩

theorem eval_nodeUnstage_record (who : ℕ) (hdir : b.stateDir ≠ "")
    (hrecord : Assoc.get w.records req.stagingPath = some (.json u.record)) :
    ∃ w', Same w w' ∧ (nodeUnstage b req).eval (clean who) w =
      (unstageSingleTarget b req u.iqn u.portal (some u.device)).eval (clean who) w' := by
  obtain ⟨w', hsame, hunmount⟩ := eval_unmount who req.stagingPath w
  rw [← hsame.records] at hrecord
  refine ⟨w', hsame, ?_⟩
  rw [nodeUnstage_eq, eval_bind_of hunmount,
    eval_bind_of (eval_loadState_some hdir hrecord)]
  rfl

theorem eval_nodeUnstage_derived (who : ℕ) (hplaced : Placed b req.volume u)
    (hnone : b.stateDir ≠ "" → Assoc.get w.records req.stagingPath = none) :
    ∃ w', Same w w' ∧ (nodeUnstage b req).eval (clean who) w =
      (unstageSingleTarget b req u.iqn u.portal
        (if (config b req.volume).isTargetd then none else some u.device)).eval (clean who) w' := by
  obtain ⟨w', hsame, hunmount⟩ := eval_unmount who req.stagingPath w
  rw [← hsame.records] at hnone
  refine ⟨w', hsame, ?_⟩
  rw [nodeUnstage_eq, eval_bind_of hunmount,
    eval_bind_of (eval_loadState_none hnone)]
  change (unstageDerived b req).eval (clean who) w' = _
  rw [unstageDerived_eq hplaced]

theorem not_unstages_detached (hdir : b.stateDir ≠ "")
    (hrecord : Assoc.get w.records req.stagingPath = some (.json u.record))
    (hshared : 0 < shared b w u.iqn req.stagingPath) (hgone : u ∉ w.attached) :
    ¬ Unstages b req u who w := by
  rintro ⟨w₁, heval, -⟩
  obtain ⟨w', hsame, hnode⟩ := eval_nodeUnstage_record who hdir hrecord
  have hfails : ∃ e, ((unstageSingleTarget b req u.iqn u.portal (some u.device)).eval
      (clean who) w').1 = .error e := by
    apply eval_withTargetLock
    intro w'' hsame'
    have hpos : 0 < shared b w'' u.iqn req.stagingPath := by
      rw [shared_congr (hsame'.records.trans hsame.records)]
      exact hshared
    have hreply : clean who (.evalSymlinks u.device) w'' = (.error .notFound, w'') := by
      have hunit : w''.unitOf u.device = none := by
        refine if_neg ?_
        rw [hsame'.attached, hsame.attached]
        exact hgone
      change performStat u.device w'' = _
      rw [performStat, hunit]
      rfl
    rw [Program.bind_eq, eval_bind_of (eval_otherRecordsForIQN u.iqn req.stagingPath),
      if_pos hpos]
    exact ⟨_, congrArg Prod.fst (eval_ask_of hreply)⟩
  obtain ⟨e, he⟩ := hfails
  rw [← hnode, heval] at he
  cases he

theorem not_unstages_named (hplaced : Placed b req.volume u)
    (htargetd : (config b req.volume).isTargetd = true)
    (hnone : b.stateDir ≠ "" → Assoc.get w.records req.stagingPath = none)
    (hzero : shared b w u.iqn req.stagingPath = 0) {s : String × String} (hs : s ∈ w.sessions)
    (hne : s ≠ (u.iqn, u.portal)) (hname : Strings.contains s.1 u.iqn = true) :
    ¬ Unstages b req u who w := by
  rintro ⟨w₁, heval, -⟩
  obtain ⟨w', hsame, hnode⟩ := eval_nodeUnstage_derived who hplaced hnone
  rw [if_pos htargetd] at hnode
  have hfails : ∃ e, ((unstageSingleTarget b req u.iqn u.portal none).eval
      (clean who) w').1 = .error e := by
    apply eval_withTargetLock
    intro w'' hsame'
    have hzero' : shared b w'' u.iqn req.stagingPath = 0 := by
      rw [shared_congr (hsame'.records.trans hsame.records)]
      exact hzero
    have hother : s ∈ (performLogout u.iqn u.portal w'').2.sessions := by
      rw [performLogout_sessions, hsame'.sessions, hsame.sessions]
      exact List.mem_filter.mpr ⟨hs, by simpa using hne⟩
    rw [Program.bind_eq, eval_bind_of (eval_otherRecordsForIQN u.iqn req.stagingPath),
      hzero', if_neg (Nat.lt_irrefl 0), Program.bind_eq, eval_bind_of (eval_logOut _ _ _)]
    obtain ⟨e, hgone⟩ := eval_verifyGone_session who hother hname
    exact ⟨e, congrArg Prod.fst (eval_bind_error hgone)⟩
  obtain ⟨e, he⟩ := hfails
  rw [← hnode, heval] at he
  cases he

theorem exec_nodeUnstage_record (who : ℕ) (hdir : b.stateDir ≠ "")
    (hrecord : Assoc.get w.records req.stagingPath = some (.json u.record)) :
    ∃ w', Same w w' ∧ ∀ os, ∃ os', (machine.exec who (nodeUnstage b req) os' w).2 =
      (machine.exec who (unstageSingleTarget b req u.iqn u.portal (some u.device)) os w').2 := by
  obtain ⟨w', hsame, hunmount⟩ := eval_unmount who req.stagingPath w
  rw [← hsame.records] at hrecord
  refine ⟨w', hsame, fun os => ?_⟩
  have hload : (loadState b req.stagingPath).eval (clean who) w' = (.ok (some u.record), w') :=
    eval_loadState_some hdir hrecord
  obtain ⟨os₁, h₁, _⟩ := Machine.exists_exec_bind (k := unstageWith b req) hload os
  obtain ⟨os₂, h₂, _⟩ := Machine.exists_exec_bind
    (k := fun _ => (loadState b req.stagingPath).bind (unstageWith b req)) hunmount os₁
  exact ⟨os₂, by rw [nodeUnstage_eq, h₂, h₁]; rfl⟩

section Section

variable {p : Prog Unit} {iqn : String} {v : World}

/-- The state in which a section is run. -/
def locked (who : ℕ) (iqn : String) (w : World) : World :=
  { w with holder := Function.update w.holder iqn (some who) }

theorem exec_section_crash (hdir : b.stateDir ≠ "") {os : List Outcome}
    (h : (machine.exec who p os (locked who iqn w)).2 = (v, none)) :
    ∃ os', (machine.exec who (withTargetLock b iqn p) os' w).2 = (v, none) := by
  rw [withTargetLock, if_neg hdir]
  obtain ⟨os', hos', _⟩ := Machine.exists_exec_bind (eval_lockTarget iqn w) os
  exact ⟨os', hos'.trans (Machine.exec_bind_crash (Machine.exec_attempt_crash h))⟩

theorem exec_section_end (hdir : b.stateDir ≠ "") {r : Except Err Unit}
    (h : p.eval (clean who) (locked who iqn w) = (r, v)) :
    ∃ os', (machine.exec who (withTargetLock b iqn p) os' w).2 = (v, none) := by
  rw [withTargetLock, if_neg hdir]
  have hattempt : (p.attempt : Prog (Except Err Unit)).eval (clean who) (locked who iqn w) =
      (.ok r, v) := by
    rw [eval_attempt, h]
  obtain ⟨os₁, h₁, _⟩ := Machine.exists_exec_bind hattempt []
  obtain ⟨os₂, h₂, _⟩ := Machine.exists_exec_bind (eval_lockTarget iqn w) os₁
  exact ⟨os₂, h₂.trans (h₁.trans rfl)⟩

end Section

theorem exec_ask_of {c : Cmd} {k : c.Reply → Prog α} {r : c.Reply} (h : clean who c w = (r, w'))
    (os : List Outcome) :
    (machine.exec who ((run c).bind k) (.ok :: os) w).2 = (machine.exec who (k r) os w').2 := by
  change (machine.exec who (k (clean who c w).1) os (clean who c w).2).2 = _
  rw [h]

/-- The state after the unit was detached. -/
def detached (u : Path) (w : World) : World :=
  { w with attached := w.attached.filter (· ≠ ⟨u.portal, u.iqn, u.lun⟩) }

theorem exec_leaveSession (hdir : b.stateDir ≠ "") (hmem : u ∈ w.attached) :
    (machine.exec who (leaveSession b req.stagingPath (some u.device)) [.ok, .ok] w).2 =
      (detached u w, none) := by
  have hstat : clean who (.evalSymlinks u.device) w = (.ok (), w) := by
    have hunit : w.unitOf u.device = some (u.iqn, u.lun) := if_pos hmem
    change performStat u.device w = _
    rw [performStat, hunit]
    rfl
  have hdetach : clean who (.detach u.device) w = (.ok (), detached u w) := if_pos hmem
  refine (exec_ask_of hstat _).trans ((exec_ask_of hdetach _).trans ?_)
  change (machine.exec who (clearState b req.stagingPath) [] (detached u w)).2 = _
  rw [clearState, if_neg hdir]
  rfl

theorem eval_shared (who : ℕ) (b : Plugin) (iqn exclude : String) (h : w'.records = w.records) :
    (otherRecordsForIQN b iqn exclude).eval (clean who) w' =
      (.ok (shared b w iqn exclude), w') := by
  rw [eval_otherRecordsForIQN, shared_congr h]

theorem exists_detached (who : ℕ) (hstaged : Staged b req u w) (hdir : b.stateDir ≠ "")
    (hshared : 0 < shared b w u.iqn req.stagingPath) : ∃ os v,
      (machine.exec who (nodeUnstage b req) os w).2 = (v, none) ∧ v.records = w.records ∧
        u ∉ v.attached := by
  have hrecord := hstaged.record
  rw [if_neg hdir] at hrecord
  obtain ⟨w', hsame, hstops⟩ := exec_nodeUnstage_record who hdir hrecord
  have hmem : u ∈ (locked who u.iqn w').attached := hsame.attached ▸ hstaged.attached
  have hcount : (otherRecordsForIQN b u.iqn req.stagingPath).eval (clean who)
      (locked who u.iqn w') = _ := eval_shared who b u.iqn req.stagingPath hsame.records
  obtain ⟨os₁, h₁, _⟩ := Machine.exists_exec_bind (M := machine) (t := who)
    (k := detachOrLogOut b req u.iqn u.portal (some u.device)) hcount [.ok, .ok]
  rw [detachOrLogOut, if_pos hshared, exec_leaveSession hdir hmem] at h₁
  obtain ⟨os₂, h₂⟩ := exec_section_crash hdir h₁
  obtain ⟨os₃, h₃⟩ := hstops os₂
  exact ⟨os₃, _, h₃.trans h₂, hsame.records, by simp [detached]⟩

theorem eval_detachOrLogOut (hdir : b.stateDir ≠ "") (hcoherent : Coherent w) :
    (detachOrLogOut b req u.iqn u.portal (some u.device) 0).eval (clean who) w =
      (.ok (), { (performLogout u.iqn u.portal w).2 with
        records := Assoc.erase w.records req.stagingPath }) := by
  have hgone : (performLogout u.iqn u.portal w).2.unitOf u.device = none :=
    if_neg (performLogout_attached hcoherent)
  have hsize : clean who (.getsize u.device) (performLogout u.iqn u.portal w).2 =
      (⟨none, some .notFound⟩, (performLogout u.iqn u.portal w).2) := by
    change performGetsize u.device _ = _
    rw [performGetsize, hgone]
    rfl
  have hverify : (verifyGone u.iqn (some u.device)).eval (clean who)
      (performLogout u.iqn u.portal w).2 = (.ok (), (performLogout u.iqn u.portal w).2) :=
    (eval_ask_of hsize).trans rfl
  rw [detachOrLogOut, if_neg (Nat.lt_irrefl 0), Program.bind_eq,
    eval_bind_of (eval_logOut u.iqn u.portal w), Program.bind_eq,
    eval_bind_of hverify, ← performLogout_records u.iqn u.portal w]
  change (clearState b req.stagingPath).eval (clean who) (performLogout u.iqn u.portal w).2 = _
  rw [clearState, if_neg hdir]
  rfl

theorem exists_removed (who : ℕ) (hstaged : Staged b req u w) (hdir : b.stateDir ≠ "")
    (hzero : shared b w u.iqn req.stagingPath = 0) : ∃ os v,
      (machine.exec who (nodeUnstage b req) os w).2 = (v, none) ∧
        v.records = Assoc.erase w.records req.stagingPath ∧
        v.sessions = w.sessions.filter (· ≠ (u.iqn, u.portal)) := by
  have hrecord := hstaged.record
  rw [if_neg hdir] at hrecord
  obtain ⟨w', hsame, hstops⟩ := exec_nodeUnstage_record who hdir hrecord
  have hcount : (otherRecordsForIQN b u.iqn req.stagingPath).eval (clean who)
      (locked who u.iqn w') = _ := eval_shared who b u.iqn req.stagingPath hsame.records
  rw [hzero] at hcount
  have hcoherent : Coherent (locked who u.iqn w') := by
    intro p hp
    exact hsame.sessions ▸ hstaged.coherent p (hsame.attached ▸ hp)
  have hrun : ((otherRecordsForIQN b u.iqn req.stagingPath).bind
      (detachOrLogOut b req u.iqn u.portal (some u.device))).eval (clean who)
      (locked who u.iqn w') = _ :=
    (eval_bind_of hcount).trans (eval_detachOrLogOut hdir hcoherent)
  obtain ⟨os₁, h₁⟩ := exec_section_end hdir hrun
  obtain ⟨os₂, h₂⟩ := hstops os₁
  refine ⟨os₂, _, h₂.trans h₁, ?_, ?_⟩
  · exact congrArg (Assoc.erase · req.stagingPath) hsame.records
  · exact (performLogout_sessions _ _ _).trans
      (congrArg (List.filter fun s => decide (s ≠ (u.iqn, u.portal))) hsame.sessions)

end Stuck

/-- Whatever attempts failed before, an attempt of which nothing fails unstages the volume, exactly
when no other volume has a record of the target and no other session has its name. -/
theorem unstage_converges_iff (b : Plugin) (req : NodeUnstageRequest) (u : Path) (who : ℕ)
    (w : World) (hstaged : Staged b req u w) :
    (∀ v, Attempted b req who w v → Unstages b req u who v) ↔ Separate b req u w := by
  constructor
  · intro hconverges
    have hstops : ∀ os v, (machine.exec who (nodeUnstage b req) os w).2 = (v, none) →
        Unstages b req u who v := by
      intro os v hstop
      have hstart : Attempted b req who w w := .start
      have hagain := hstart.again os (by rw [hstop]; simp)
      rw [hstop] at hagain
      exact hconverges v hagain
    have halone : b.stateDir ≠ "" → Alone w req.stagingPath u.iqn := by
      rw [← shared_eq_zero_iff hstaged.path]
      by_contra hshared
      have hdir : b.stateDir ≠ "" := fun h => hshared (by simp [shared, h])
      obtain ⟨os, v, hstop, hrecords, hgone⟩ :=
        exists_detached who hstaged hdir (Nat.pos_of_ne_zero hshared)
      have hrecord := hstaged.record
      rw [if_neg hdir, ← hrecords] at hrecord
      refine not_unstages_detached hdir hrecord ?_ hgone (hstops os v hstop)
      rw [shared_congr hrecords]
      exact Nat.pos_of_ne_zero hshared
    refine ⟨halone, fun htargetd s hs hne => ?_⟩
    by_contra hname
    have hname : Strings.contains s.1 u.iqn = true := by simpa using hname
    have hzero := (shared_eq_zero_iff hstaged.path).mpr halone
    by_cases hdir : b.stateDir = ""
    · exact not_unstages_named hstaged.placed htargetd (fun h => absurd hdir h) hzero hs hne hname
        (hconverges w .start)
    · obtain ⟨os, v, hstop, hrecords, hsessions⟩ := exists_removed who hstaged hdir hzero
      refine not_unstages_named hstaged.placed htargetd ?_ ?_ ?_ hne hname (hstops os v hstop)
      · intro _
        rw [hrecords]
        exact Assoc.get_erase_self _ _
      · rw [shared_eq_zero_iff hstaged.path]
        intro _ path st hget hpath
        rw [hrecords, Assoc.get_erase_of_ne hpath] at hget
        exact halone hdir path st hget hpath
      · rw [hsessions]
        exact List.mem_filter.mpr ⟨hs, by simpa using hne⟩
  · intro hseparate v hattempted
    exact (hattempted.left hstaged.path hstaged.placed (hstaged.left hseparate)).unstages
      hstaged.path hstaged.placed

section Instance

/-- A plugin with an instance that is managed by targetd. -/
def sharedTarget : Plugin where
  instances _ := some ⟨"", "10.0.0.1", [], "", false, mgmtTargetd, "rpc", "pool", "iqn.san"⟩
  nodeID := "node"
  stateDir := "/state"
  chapDir := ""
  targetdDir := ""
  polls := 0

def unitOne : Path := ⟨"10.0.0.1", "iqn.san", "1"⟩

def unitTwo : Path := ⟨"10.0.0.1", "iqn.san", "2"⟩

def firstVolume : NodeUnstageRequest := ⟨⟨"san", "targetd:pool", "one"⟩, "/staging/1"⟩

/-- The first volume is staged, and others with the given records. -/
def stagedNode (others : List (String × RecordFile)) : World where
  holder _ := none
  records := ("/staging/1", .json unitOne.record) :: others
  sessions := [("iqn.san", "10.0.0.1")]
  attached := [unitOne, unitTwo]
  wwid _ _ := ""
  maps := []
  mounts := []

/-- Two volumes of one target. -/
def bothStaged : World := stagedNode [("/staging/2", .json unitTwo.record)]

/-- The attempt is cut short after the unit was detached, and the next one does not find it. -/
theorem unstage_stuck_after_detach :
    (machine.exec 0 (nodeUnstage sharedTarget firstVolume) (.replicate 9 .ok) bothStaged).2.2 =
        none ∧
      ((nodeUnstage sharedTarget firstVolume).eval (clean 0)
        (machine.exec 0 (nodeUnstage sharedTarget firstVolume) (.replicate 9 .ok)
          bothStaged).2.1).1.toOption = none := by
  decide +kernel

theorem stagedNode_staged (others : List (String × RecordFile)) :
    Staged sharedTarget firstVolume unitOne (stagedNode others) := by
  refine ⟨by decide, ⟨by decide, by decide, by decide⟩, ?_, List.mem_cons_self, rfl⟩
  intro p hp
  have hunit : p = unitOne ∨ p = unitTwo := by simpa [stagedNode] using hp
  rcases hunit with rfl | rfl
  · exact List.mem_singleton_self _
  · exact List.mem_singleton_self _

theorem unstage_converges_iff_one_record :
    (∀ v, Attempted sharedTarget firstVolume 0 (stagedNode []) v →
      Unstages sharedTarget firstVolume unitOne 0 v) ↔
        Separate sharedTarget firstVolume unitOne (stagedNode []) :=
  unstage_converges_iff sharedTarget firstVolume unitOne 0 (stagedNode []) (stagedNode_staged [])

end Instance

end BardCsi.Iscsi.Node
