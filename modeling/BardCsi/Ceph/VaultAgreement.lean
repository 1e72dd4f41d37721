import BardCsi.Ceph.Reads

/-!
Agreement of concurrent first stages on one Vault entry. The contract of every caller is
that a stored passphrase stays: the create-only write keeps it, and a caller returns only
what it read or what it wrote.
-/
namespace BardCsi.Ceph

open Effect Program

section Step

variable {who : ℕ} {s : Secret} {o : Outcome} {w : World} {resp : HttpResponse} {p : Text}

theorem step_secret_create_kept {q : Text} (hq : w.secrets s = some q) :
    (step who (.secret s (.write p true)) o w).2.secrets s = some q := by
  have hpost : (perform who o.pick (.secret s (.write p true)) w).2 = w := by
    change (performSecret s (.write p true) w).2 = w
    simp [performSecret, hq]
  rw [step_state_of_perform hpost, hq]

theorem step_secret_write_reply {createOnly : Bool}
    (h : (step who (.secret s (.write p createOnly)) o w).1 = .ok resp)
    (hs : resp.status ∈ [200, 204]) :
    (step who (.secret s (.write p createOnly)) o w).2.secrets s = some p := by
  obtain hw | ⟨f, _, hf, _⟩ := step_cases who (.secret s (.write p createOnly)) o w
  · rw [hw] at h ⊢
    change (performSecret s (.write p createOnly) w).1 = .ok resp at h
    change (performSecret s (.write p createOnly) w).2.secrets s = some p
    simp only [performSecret] at h ⊢
    split_ifs at h ⊢ with hc
    · obtain rfl := Except.ok.inj h
      simp at hs
    · simp [World.putSecret]
  · rw [h] at hf
    exact absurd (List.mem_of_mem_dropLast (l := [200, 204, 404]) hs)
      (httpFailed_status (Option.some.inj hf))

end Step

section FirstStage

variable (v : VaultConfig) (s : Secret) (t : ℕ)

/-- What is stored under `s` stays. -/
def Keeps (s : Secret) (w w' : World) : Prop := ∀ p, w.secrets s = some p → w'.secrets s = some p

def keepContract (s : Secret) : Contract Cmd Outcome World where
  inv _ := True
  rely := Keeps s
  assume _ _ _ := True
  guarantee _ := Keeps s
  rely_refl _ _ h := h
  rely_trans h k p hp := k p (h p hp)

theorem keepContract_quietReads : QuietReads machine t (keepContract s) := by
  intro c hc w o _ _
  have hsecrets : (machine.step t c o w).2.secrets = w.secrets := by
    obtain h | h := step_reads hc t o w
    · exact congrArg World.secrets h
    · exact (congrArg World.secrets h).trans rfl
  have hkeeps : Keeps s w (machine.step t c o w).2 := fun p hp => by rw [hsecrets, hp]
  exact ⟨hkeeps, trivial, hkeeps⟩

theorem vault_read_meets (w : World) :
    (Vault.read v s).Meets machine t (keepContract s)
      (IfOk fun found w' => ∀ p, found = some p → w'.secrets s = some p) w :=
  secretRead_finds machine_answers (keepContract_quietReads s t) (fun _ _ _ hr hp => hr _ hp)
    fun _ _ _ hp _ => hp

theorem vault_create_meets (pass : Text) (w : World) :
    (Vault.write v s pass true).Meets machine t (keepContract s)
      (IfOk fun _ w' => w'.secrets s = some pass) w := by
  apply secretCommand_meets fun _ _ (hr : Keeps s _ _) => hr _
  intro a o _ _
  exact ⟨fun p hp => step_secret_create_kept hp, trivial,
    fun resp hx hs => step_secret_write_reply hx hs⟩

theorem vault_passphrase_meets (inst : String) (spec : Spec) (w : World) :
    (Vault.passphrase v inst spec).Meets machine t
      (keepContract (Vault.secretPath v inst spec))
      (IfOk fun p w' => w'.secrets (Vault.secretPath v inst spec) = some p) w := by
  apply (vault_read_meets v _ t w).ends
  intro found w₁ _ hfound
  cases found with
  | some existing => exact fun w₂ hr _ => hr _ (hfound existing rfl)
  | none =>
    apply randomText_meets machine_answers (keepContract_quietReads _ t)
    · intro w₁ w₂ _ _ _ _ _
      apply (vault_create_meets v _ t _ w₂).tryThen
      · exact fun _ w₃ _ hwritten w₄ hr _ => hr _ hwritten
      · intro err w₃ _ _
        apply (vault_read_meets v _ t w₃).tryThen
        · intro found w₄ _ hread
          cases found with
          | some p => exact fun w₅ hr _ => hr _ (hread p rfl)
          | none => exact fun _ _ _ => trivial
        · exact fun _ _ _ _ _ _ _ => trivial
    · exact fun _ _ _ _ _ _ _ => trivial

end FirstStage

/-- Callers that first stage one volume at the same time: at every point of every schedule,
whatever requests fail and whether or not failed writes landed, every passphrase that a
call has returned is the one stored in Vault. -/
theorem vault_first_stage_agreement (v : VaultConfig) (inst : String) (spec : Spec)
    (w : World) (schedule : List (ℕ × Outcome)) :
    let P := Pool.run machine schedule ⟨fun _ => Vault.passphrase v inst spec, w⟩
    (∀ t p, P.procs t = .pure p → P.state.secrets (Vault.secretPath v inst spec) = some p) ∧
      ∀ t t' p p', P.procs t = .pure p → P.procs t' = .pure p' → p = p' := by
  have hK : Pool.Compatible (fun _ : ℕ => keepContract (Vault.secretPath v inst spec))
      (fun _ => True) := ⟨fun _ _ => Iff.rfl, fun _ _ _ _ _ _ _ _ hg => hg⟩
  obtain ⟨hgood, _⟩ := Pool.Good.run (M := machine)
    (Q := fun _ => IfOk fun p w' => w'.secrets (Vault.secretPath v inst spec) = some p)
    hK (P := ⟨fun _ => Vault.passphrase v inst spec, w⟩)
    ⟨trivial, fun t => vault_passphrase_meets v t inst spec w⟩ schedule
    (Pool.throughout_of_forall _ schedule _ fun _ _ _ _ => trivial)
  have hstored := fun t p (hp : (Pool.run machine schedule
    ⟨fun _ => Vault.passphrase v inst spec, w⟩).procs t = .pure p) => hgood.result hK hp
  refine ⟨hstored, fun t t' p p' hp hp' => ?_⟩
  exact Option.some.inj ((hstored t p hp).symm.trans (hstored t' p' hp'))

end BardCsi.Ceph
