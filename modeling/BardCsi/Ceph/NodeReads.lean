import BardCsi.Ceph.Luks
import BardCsi.Ceph.Reads

/-!
What the requests of the node plane show of the state, and rules for the functions of the
node plane that only read.
-/
namespace BardCsi.Ceph

open Effect Program

section Replies

variable (who : ℕ) (o : Outcome) (w : World)

theorem step_findmntTarget_reply (p : String) :
    (step who (.findmntTarget p) o w).1 =
        ⟨some ((Assoc.get w.mounts p).getD (.other (w.below p))), none⟩ ∨
      ∃ e, (step who (.findmntTarget p) o w).1 = ⟨none, some e⟩ := by
  obtain h | ⟨f, _, hf, _⟩ := step_cases who (.findmntTarget p) o w
  · rw [h]
    exact .inl rfl
  · exact .inr ⟨_, (Option.some.inj hf).symm⟩

theorem step_luksStatus_reply (p : String) :
    (∃ d, (step who (.luksStatus p) o w).1 = ⟨some d, none⟩ ∧ Assoc.get w.mappers p = some d) ∨
      ∃ out e, (step who (.luksStatus p) o w).1 = ⟨out, some e⟩ := by
  obtain h | ⟨f, _, hf, _⟩ := step_cases who (.luksStatus p) o w
  · rw [h]
    change (∃ d, (performLuksStatus p w).1 = _ ∧ _) ∨ ∃ out e, (performLuksStatus p w).1 = _
    unfold performLuksStatus
    cases Assoc.get w.mappers p with
    | none => exact .inr ⟨_, _, rfl⟩
    | some d => exact .inl ⟨d, rfl, rfl⟩
  · exact .inr ⟨_, _, (Option.some.inj hf).symm⟩

theorem step_listRecords_reply :
    (step who .listRecords o w).1 = .ok w.records ∨
      ∃ e, (step who .listRecords o w).1 = .error e := by
  obtain h | ⟨f, _, hf, _⟩ := step_cases who .listRecords o w
  · rw [h]
    exact .inl rfl
  · exact .inr ⟨_, (Option.some.inj hf).symm⟩

theorem step_readRecord_reply (p : String) :
    (∃ file, Assoc.get w.records p = some file ∧ (step who (.readRecord p) o w).1 = .ok file) ∨
      ∃ e, (step who (.readRecord p) o w).1 = .error e := by
  obtain h | ⟨f, _, hf, _⟩ := step_cases who (.readRecord p) o w
  · rw [h]
    change (∃ file, _ ∧ (orNotFound (Assoc.get w.records p) w).1 = _) ∨
      ∃ e, (orNotFound (Assoc.get w.records p) w).1 = _
    cases Assoc.get w.records p with
    | none => exact .inr ⟨_, rfl⟩
    | some file => exact .inl ⟨file, rfl, rfl⟩
  · exact .inr ⟨_, (Option.some.inj hf).symm⟩

theorem sizeOf_raw {w : World} {d : Device} (hraw : d.isRaw = true) (h : w.sizeOf d > 0) :
    ∃ i, w.imageOf d = some i := by
  unfold World.sizeOf at h
  cases hmapped : Assoc.get w.mapped d with
  | some m => exact ⟨m.image, by simp [World.imageOf, hmapped]⟩
  | none =>
    rw [hmapped] at h
    cases d with
    | rbd n => cases h
    | nbd n => cases h
    | luks p => cases hraw
    | other p => cases hraw

theorem imageOf_of_getsize {who : ℕ} {o : Outcome} {w : World} {d : Device}
    (hraw : d.isRaw = true) (h : ((step who (.blockdevGetsize d) o w).1.err.isNone &&
      decide ((step who (.blockdevGetsize d) o w).1.out > 0)) = true) :
    ∃ i, w.imageOf d = some i := by
  obtain hs | ⟨f, _, hf, _⟩ := step_cases who (.blockdevGetsize d) o w
  · rw [hs] at h
    change ((performGetsize d w).1.err.isNone && _) = true at h
    unfold performGetsize at h
    split at h
    · exact sizeOf_raw hraw ‹_›
    · cases h
  · rw [← Option.some.inj hf] at h
    cases h

theorem recordOf_eq_some {vol : ImageRef} {file : RecordFile} {rec : DeviceRecord}
    (h : recordOf vol file = some rec) : file = .json rec ∧ rec.volume = vol := by
  cases file with
  | json rec' =>
    simp only [recordOf, Option.ite_none_right_eq_some, Option.some.injEq] at h
    obtain ⟨hvol, rfl⟩ := h
    exact ⟨rfl, hvol⟩
  | bare d => cases h

end Replies

section Rules

variable {σ α : Type} {M : Machine Cmd Cmd.Reply ℕ Outcome σ} {π : σ → World} {t : ℕ}
variable {K : Contract Cmd Outcome σ} {Q : Except Err α → σ → Prop} {a : σ}
variable (hM : Answers M π) (hq : QuietReads M t K)

include hq

theorem tempKeyFile_meets {pass : Text} {f : Unit → Prog α}
    (hok : ∀ b, K.rely a b → K.inv b → (f ()).Meets M t K Q b) (herr : MayFail M t K Q a) :
    ((tempKeyFile pass).bind f).Meets M t K Q a := by
  apply Meets.quiet (hq (.tempKeyFile pass) rfl)
  intro b hr hi o _
  cases h : (M.step t (.tempKeyFile pass) o b).1 with
  | ok u => exact hok b hr hi
  | error e => exact herr b _ hr hi

theorem connArgs_meets {cc : ClusterConfig} {inst : String} {secrets : Params}
    {f : Unit → Prog α} (hok : ∀ b, K.rely a b → K.inv b → (f ()).Meets M t K Q b)
    (herr : MayFail M t K Q a) : ((connArgs cc inst secrets).bind f).Meets M t K Q a := by
  apply Meets.quiet (hq (.connArgs inst (userID cc secrets)) rfl)
  intro b hr hi o _
  cases h : (M.step t (.connArgs inst (userID cc secrets)) o b).1 with
  | ok u => exact hok b hr hi
  | error e => exact herr b _ hr hi

include hM

theorem findmntTarget_meets {p : String} {f : Output (Option Device) → Prog α}
    (hok : ∀ b, K.rely a b → K.inv b →
      (f ⟨some ((Assoc.get (π b).mounts p).getD (.other ((π b).below p))), none⟩).Meets M t K Q b)
    (herr : ∀ b e, K.rely a b → K.inv b → (f ⟨none, some e⟩).Meets M t K Q b) :
    (Program.request (.findmntTarget p) f).Meets M t K Q a := by
  apply Meets.quiet (hq _ rfl)
  intro b hr hi o _
  rw [hM.reply]
  obtain h | ⟨e, h⟩ := step_findmntTarget_reply t o (π b) p
  · rw [h]
    exact hok b hr hi
  · rw [h]
    exact herr b e hr hi

theorem luksStatus_meets {p : String} {f : Output (Option Device) → Prog α}
    (hok : ∀ b d, K.rely a b → K.inv b → Assoc.get (π b).mappers p = some d →
      (f ⟨some d, none⟩).Meets M t K Q b)
    (herr : ∀ b out e, K.rely a b → K.inv b → (f ⟨out, some e⟩).Meets M t K Q b) :
    (Program.request (.luksStatus p) f).Meets M t K Q a := by
  apply Meets.quiet (hq _ rfl)
  intro b hr hi o _
  rw [hM.reply]
  obtain ⟨d, h, hd⟩ | ⟨out, e, h⟩ := step_luksStatus_reply t o (π b) p
  · rw [h]
    exact hok b d hr hi hd
  · rw [h]
    exact herr b out e hr hi

theorem findStagedDevice_meets {b : Backend} {vol : ImageRef}
    {f : Option DeviceRecord → Prog α}
    (hsome : ∀ c rec file, K.rely a c → K.inv c → file ∈ (π c).records → file.2 = .json rec →
      rec.volume = vol → (f (some rec)).Meets M t K Q c)
    (hnone : ∀ c, K.rely a c → K.inv c → (f none).Meets M t K Q c) :
    ((findStagedDevice b vol).bind f).Meets M t K Q a := by
  unfold findStagedDevice
  by_cases hdir : b.stateDir = ""
  · rw [if_pos hdir]
    exact Meets.of_rely hnone
  · rw [if_neg hdir]
    apply Meets.quiet (hq _ rfl)
    intro c hr hi o _
    rw [hM.reply]
    obtain h | ⟨e, h⟩ := step_listRecords_reply t o (π c)
    · rw [h]
      change (f ((π c).records.findSome? fun file => recordOf vol file.2)).Meets M t K Q c
      cases hfind : (π c).records.findSome? fun file => recordOf vol file.2 with
      | none => exact hnone c hr hi
      | some rec =>
        obtain ⟨file, hfile, hrec⟩ := List.exists_of_findSome?_eq_some hfind
        obtain ⟨hjson, hvol⟩ := recordOf_eq_some hrec
        exact hsome c rec file hr hi hfile hjson hvol
    · rw [h]
      exact hnone c hr hi

end Rules

end BardCsi.Ceph
