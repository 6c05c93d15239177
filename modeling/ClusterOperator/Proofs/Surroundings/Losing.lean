import ClusterOperator.Proofs.Surroundings.Frame

/-!
# Status writes that fail

A program that looks at no stored declaration, and at no reply to a request to write a status, does
the same whichever of these requests fail. Its runs stay side by side: they make the same calls, and
the stores they find agree on all documents but declarations.

## Main definitions

* `Store.Alike`: two stores that agree on all but declarations.
* `Surroundings.losing`: the same surroundings, but for the failures of status writes.
* `Program.Heedless`: a program that looks at no declaration.

## Main results

* `Store.Alike.answer`: requests about other objects are answered alike.
* `Surroundings.run_losing`: failures of status writes make no difference.
-/

namespace ClusterOperator

/-! ### Stores that agree on all but declarations -/

namespace Store

/-- Two stores agree on all documents but declarations, and on the next version. -/
structure Alike (s s' : Store) : Prop where
  get? : ∀ key, key.kind ≠ .declaration → s.get? key = s'.get? key
  version : s.version = s'.version

variable {s s' : Store}

theorem Alike.refl (s : Store) : s.Alike s := ⟨fun _ _ => rfl, rfl⟩

theorem Alike.symm (h : s.Alike s') : s'.Alike s :=
  ⟨fun key hkey => (h.get? key hkey).symm, h.version.symm⟩

theorem Alike.trans {t : Store} (h : s.Alike s') (h' : s'.Alike t) : s.Alike t :=
  ⟨fun key hkey => (h.get? key hkey).trans (h'.get? key hkey), h.version.trans h'.version⟩

/-- What is written into both comes to the same. -/
theorem Alike.write (h : s.Alike s') (key : Key) (o : key.kind.Object) :
    (s.write key o).1 = (s'.write key o).1 ∧ (s.write key o).2.Alike (s'.write key o).2 := by
  refine ⟨?_, fun other hother => ?_, congrArg (· + 1) h.version⟩
  · rw [Store.write, Store.write, h.version]
  · by_cases hkey : other = key
    · subst hkey
      rw [get?_write_self, get?_write_self, h.version]
    · rw [get?_write_of_ne s o hkey, get?_write_of_ne s' o hkey, h.get? other hother]

/-- A status that is written makes no difference. -/
theorem alike_updateStatus (s : Store) (d : Declaration) : s.Alike (s.updateStatus d).2 := by
  refine ⟨fun key hkey => (get?_updateStatus_of_ne s d fun heq => ?_).symm, ?_⟩
  · exact hkey (congrArg Key.kind heq)
  · unfold updateStatus
    simp only
    split <;> rfl

/-- Requests about other objects are answered alike. -/
theorem Alike.answer (h : s.Alike s') {r : Request} (hr : r.kind ≠ .declaration) :
    (s.answer r).1 = (s'.answer r).1 ∧ (s.answer r).2.Alike (s'.answer r).2 := by
  cases r with
  | get k space name => exact ⟨get_congr (h.get? ⟨k, space, name⟩ hr), h⟩
  | list k space selector => exact ⟨list_congr (fun name => h.get? ⟨k, space, name⟩ hr) _, h⟩
  | create k space o =>
    have hsame := h.get? (keyOf k space o) hr
    show (s.create k space o).1 = (s'.create k space o).1 ∧
      (s.create k space o).2.Alike (s'.create k space o).2
    cases hfound : s.get? (keyOf k space o) with
    | some j =>
      rw [create_taken hfound, create_taken (hsame.symm.trans hfound)]
      exact ⟨rfl, h⟩
    | none =>
      rw [create_fresh hfound, create_fresh (hsame.symm.trans hfound)]
      exact (h.write (keyOf k space o) o).imp_left (congrArg Except.ok)
  | update k space o =>
    have hsame := h.get? (keyOf k space o) hr
    show (s.update k space o).1 = (s'.update k space o).1 ∧
      (s.update k space o).2.Alike (s'.update k space o).2
    cases hfound : s.get? (keyOf k space o) with
    | none =>
      rw [update_missing hfound, update_missing (hsame.symm.trans hfound)]
      exact ⟨rfl, h⟩
    | some j =>
      by_cases hv : versionOf j = (k.metadata o).resourceVersion
      · rw [update_current hfound hv, update_current (hsame.symm.trans hfound) hv]
        exact (h.write (keyOf k space o) o).imp_left (congrArg Except.ok)
      · rw [update_stale hfound hv, update_stale (hsame.symm.trans hfound) hv]
        exact ⟨rfl, h⟩
  | delete k space name =>
    refine ⟨rfl, fun other hother => ?_, h.version⟩
    by_cases hkey : other = ⟨k, space, name⟩
    · subst hkey
      exact (SortedMap.get?_erase_self _ _).trans (SortedMap.get?_erase_self _ _).symm
    · refine (SortedMap.get?_erase_of_ne _ hkey).trans ?_
      exact (h.get? other hother).trans (SortedMap.get?_erase_of_ne _ hkey).symm
  | updateStatus d => exact absurd rfl hr

end Store

/-! ### Programs that look at no declaration -/

/-- A program that asks for no declaration, and does not look at the reply to a status write. -/
inductive Program.Heedless {α : Type} : Program α → Prop
  | done (a : α) : Heedless (.done a)
  | status {d : Declaration} {next : Except Error Unit → Program α}
      (same : ∀ reply reply', next reply = next reply')
      (goes : ∀ reply, Heedless (next reply)) :
      Heedless (.call (.request (.updateStatus d)) next)
  | call {c : Call} {next : c.Reply → Program α}
      (about : ∀ r, c = .request r → r.kind ≠ .declaration)
      (goes : ∀ reply, Heedless (next reply)) : Heedless (.call c next)

namespace Program

variable {α β : Type} {p : Program α}

theorem Heedless.bind {f : α → Program β} (h : p.Heedless) (hf : ∀ a, (f a).Heedless) :
    (p >>= f).Heedless := by
  induction h with
  | done a => exact hf a
  | status same goes ih =>
    exact .status (fun reply reply' => congrArg (Program.bind · f) (same reply reply')) ih
  | call about goes ih => exact .call about ih

/-- A call that is no request looks at nothing that is stored. -/
theorem heedless_perform {c : Call} (h : ∀ r, c ≠ .request r) : (perform c).Heedless :=
  .call (fun r heq => absurd heq (h r)) fun reply => .done reply

end Program

namespace Surroundings

variable {α : Type} {u : Surroundings} {lost : List Call → Declaration → Option Failure}

/-- The same surroundings, but for the failures of requests to write a status. -/
def losing (u : Surroundings) (lost : List Call → Declaration → Option Failure) : Surroundings :=
  { u with
    failure := fun earlier r =>
      match r with
      | .updateStatus d => lost earlier d
      | r => u.failure earlier r }

/-- Other clients make the same of stores that agree on all but declarations. -/
def Heedless (u : Surroundings) : Prop :=
  ∀ earlier r s s', s.Alike s' → (u.others earlier r s).Alike (u.others earlier r s')

theorem Calm.heedless (calm : u.Calm) : u.Heedless := fun _ _ _ _ h => by
  rwa [calm.others, calm.others]

theorem answer_losing {r : Request} (hr : r.kind ≠ .declaration) (scene : Scene) :
    (u.losing lost).answer r scene = u.answer r scene := by
  cases r with
  | updateStatus d => exact absurd rfl hr
  | _ => rfl

/-- Requests about other objects are answered alike in scenes side by side. -/
theorem answer_alike (heedless : u.Heedless) {a b : Scene} (calls : a.calls = b.calls)
    (alike : a.store.Alike b.store) {r : Request} (hr : r.kind ≠ .declaration) :
    (u.answer r a).1 = (u.answer r b).1 ∧ (u.answer r a).2.Alike (u.answer r b).2 := by
  have hothers := heedless a.calls r a.store b.store alike
  obtain ⟨hresult, hstore⟩ := hothers.answer hr
  unfold answer
  rw [← calls]
  cases u.failure a.calls r with
  | none => exact ⟨congrArg (Except.mapError u.refusal) hresult, hstore⟩
  | some f =>
    simp only
    refine ⟨trivial, ?_⟩
    split
    · exact hstore
    · exact hothers

/-- After a status write scenes are side by side whether it failed or not. -/
theorem answer_updateStatus_alike (heedless : u.Heedless) {a b : Scene} (calls : a.calls = b.calls)
    (alike : a.store.Alike b.store) (d : Declaration) :
    (u.answer (.updateStatus d) a).2.Alike ((u.losing lost).answer (.updateStatus d) b).2 := by
  have hafter : ∀ (v : Surroundings) (scene : Scene), v.others = u.others →
      (u.others scene.calls (.updateStatus d) scene.store).Alike
        (v.answer (.updateStatus d) scene).2 := fun v scene hv => by
    rcases v.answer_store (.updateStatus d) scene with hstore | ⟨hstore, -⟩
    · rw [hstore, hv]
      exact Store.alike_updateStatus _ d
    · rw [hstore, hv]
      exact Store.Alike.refl _
  have hothers := heedless a.calls (.updateStatus d) a.store b.store alike
  have hb := hafter (u.losing lost) b rfl
  rw [← calls] at hb
  exact ((hafter u a rfl).symm.trans hothers).trans hb

/-- Failures of status writes make no difference to a program that looks at no declaration. -/
theorem run_losing (heedless : u.Heedless) {p : Program α} (h : p.Heedless) {a b : Scene}
    (calls : a.calls = b.calls) (alike : a.store.Alike b.store) :
    (u.run p a).1 = ((u.losing lost).run p b).1 := by
  induction h generalizing a b with
  | done result => rfl
  | @status d next same goes ih =>
    have hcalls : (u.requested (.updateStatus d) a).calls =
        ((u.losing lost).requested (.updateStatus d) b).calls :=
      congrArg (· ++ [Call.request (.updateStatus d)]) calls
    have hnext := ih (u.answer (.updateStatus d) a).1 hcalls
      (answer_updateStatus_alike heedless calls alike d)
    refine Eq.trans hnext ?_
    exact congrArg (fun p => ((u.losing lost).run p _).1) (same _ _)
  | @call c next about goes ih =>
    cases c with
    | request r =>
      have hr := about r rfl
      obtain ⟨hresult, hstore⟩ := answer_alike heedless calls alike hr
      have hlosing : (u.losing lost).answer r b = u.answer r b := answer_losing hr b
      have hcalls : (u.requested r a).calls = ((u.losing lost).requested r b).calls :=
        congrArg (· ++ [Call.request r]) calls
      have halike : (u.requested r a).store.Alike ((u.losing lost).requested r b).store := by
        rw [requested, requested, hlosing]
        exact hstore
      have hnext := ih (u.answer r a).1 hcalls halike
      refine Eq.trans hnext ?_
      exact congrArg (fun reply => ((u.losing lost).run (next reply) _).1)
        (hresult.trans (congrArg Prod.fst hlosing).symm)
    | poll limit targets => exact ih _ (congrArg (· ++ [_]) calls) alike
    | heal limit d => exact ih _ (congrArg (· ++ [_]) calls) alike
    | clock =>
      have hnext := ih (u.clock a.calls) (a := a.after .clock) (b := b.after .clock)
        (congrArg (· ++ [Call.clock]) calls) alike
      refine Eq.trans hnext ?_
      exact congrArg (fun calls => ((u.losing lost).run (next (u.clock calls)) _).1) calls

end Surroundings

end ClusterOperator
