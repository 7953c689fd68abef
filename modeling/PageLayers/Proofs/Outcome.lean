import PageLayers.Resolution.Outcome
import Mathlib.Data.List.Forall2

/-!
When outcomes that are put together have a result, and which failure they have otherwise; and when
one comes to what another comes to. The journals play no part here.
-/

namespace PageLayers.Outcome
variable {α β : Type}

@[simp] theorem result_pure (a : α) : (pure a : Outcome α).result = .ok a := rfl

@[simp] theorem result_ofResult (result : Except Failure α) : (ofResult result).result =
    result := rfl

@[simp] theorem result_ofReply (r : Reply α) : (ofReply r).result = r.result := rfl

@[simp] theorem result_warn (w : Warning) : (warn w).result = .ok () := rfl

@[simp] theorem result_fail (cause : Failure) : (fail cause : Outcome α).result =
    .error cause := rfl

theorem result_bind (o : Outcome α) (next : α → Outcome β) :
    (o >>= next).result = o.result >>= fun a => (next a).result := by
  change (andThen o next).result = _
  unfold andThen
  cases o.result <;> rfl

theorem result_map (f : α → β) (o : Outcome α) : (f <$> o).result = f <$> o.result := by
  change (andThen o fun a => pure (f a)).result = _
  unfold andThen
  cases o.result <;> rfl

theorem bind_ok_iff {o : Outcome α} {next : α → Outcome β} {b : β} :
    (o >>= next).result = .ok b ↔ ∃ a, o.result = .ok a ∧ (next a).result = .ok b := by
  rw [result_bind]
  cases o.result <;> simp [bind, Except.bind]

theorem bind_error_iff {o : Outcome α} {next : α → Outcome β} {cause : Failure} :
    (o >>= next).result = .error cause ↔
      o.result = .error cause ∨ ∃ a, o.result = .ok a ∧ (next a).result = .error cause := by
  rw [result_bind]
  cases o.result <;> simp [bind, Except.bind]

theorem map_ok_iff {f : α → β} {o : Outcome α} {b : β} :
    (f <$> o).result = .ok b ↔ ∃ a, o.result = .ok a ∧ f a = b := by
  rw [result_map]
  cases o.result <;> simp [Functor.map, Except.map]

theorem map_error_iff {f : α → β} {o : Outcome α} {cause : Failure} :
    (f <$> o).result = .error cause ↔ o.result = .error cause := by
  rw [result_map]
  cases o.result <;> simp [Functor.map, Except.map]

theorem both_ok_iff {o : Outcome α} {p : Outcome β} {a : α} {b : β} :
    (both o p).result = .ok (a, b) ↔ o.result = .ok a ∧ p.result = .ok b := by
  unfold both
  cases o.result <;> cases p.result <;> simp [bind, Except.bind, pure, Except.pure]

theorem both_error_iff {o : Outcome α} {p : Outcome β} {cause : Failure} :
    (both o p).result = .error cause ↔
      o.result = .error cause ∨ (∃ a, o.result = .ok a) ∧ p.result = .error cause := by
  unfold both
  cases o.result <;> cases p.result <;> simp [bind, Except.bind, pure, Except.pure]

theorem result_all_cons (o : Outcome α) (os : List (Outcome α)) :
    (all (o :: os)).result = (do let a ← o.result; let as ← (all os).result; return a :: as) := by
  rw [all, result_map]
  unfold both
  cases o.result <;> cases (all os).result <;> rfl

theorem all_cons_ok_iff {o : Outcome α} {os : List (Outcome α)} {results : List α} :
    (all (o :: os)).result = .ok results ↔
      ∃ a rest, o.result = .ok a ∧ (all os).result = .ok rest ∧ results = a :: rest := by
  rw [all, map_ok_iff]
  constructor
  · rintro ⟨⟨a, rest⟩, done, rfl⟩
    obtain ⟨first, others⟩ := both_ok_iff.mp done
    exact ⟨a, rest, first, others, rfl⟩
  · rintro ⟨a, rest, first, others, rfl⟩
    exact ⟨(a, rest), both_ok_iff.mpr ⟨first, others⟩, rfl⟩

theorem all_ok_iff {os : List (Outcome α)} {results : List α} :
    (all os).result = .ok results ↔ List.Forall₂ (fun o a => o.result = .ok a) os results := by
  induction os generalizing results with
  | nil => simp [all, eq_comm]
  | cons o os ih =>
    rw [all_cons_ok_iff, List.forall₂_cons_left_iff]
    simp only [ih]

theorem orElse_ok_iff {o : Outcome α} {recover : Failure → Outcome α} {a : α} :
    (orElse o recover).result = .ok a ↔
      o.result = .ok a ∨
        ∃ cause, o.result = .error cause ∧ cause.isViolation = false ∧
          (recover cause).result = .ok a := by
  unfold orElse
  cases h : o.result with
  | ok b => simp [h]
  | error cause => cases v : cause.isViolation <;> simp [h, v]

theorem orElse_error_iff {o : Outcome α} {recover : Failure → Outcome α} {failure : Failure} :
    (orElse o recover).result = .error failure ↔
      ∃ cause, o.result = .error cause ∧
        (cause.isViolation = true ∧ cause = failure ∨
          cause.isViolation = false ∧ (recover cause).result = .error failure) := by
  unfold orElse
  cases h : o.result with
  | ok b => simp [h]
  | error cause => cases v : cause.isViolation <;> simp [h, v]

end PageLayers.Outcome

namespace PageLayers
variable {α β γ δ : Type}

/-- The second computation comes to what the first one comes to: a related result, or the same
    failure. Nothing is said where the first one ends in a violation. -/
def Follows (R : α → β → Prop) : Except Failure α → Except Failure β → Prop
  | .ok a, y => ∃ b, y = .ok b ∧ R a b
  | .error cause, y => cause.isViolation = false → y = .error cause

namespace Follows
variable {R : α → β → Prop} {S : γ → δ → Prop} {x : Except Failure α} {y : Except Failure β}

theorem same {R : α → α → Prop} (related : ∀ a, x = .ok a → R a a) : Follows R x x := by
  cases x with
  | ok a => exact ⟨a, rfl, related a rfl⟩
  | error cause => exact fun _ => rfl

theorem mono {R' : α → β → Prop} (follows : Follows R x y) (weaker : ∀ a b, R a b → R' a b) :
    Follows R' x y := by
  cases x with
  | ok a =>
    obtain ⟨b, found, related⟩ := follows
    exact ⟨b, found, weaker a b related⟩
  | error cause => exact follows

theorem bind {f : α → Except Failure γ} {g : β → Except Failure δ} (first : Follows R x y)
    (next : ∀ a b, R a b → Follows S (f a) (g b)) : Follows S (x >>= f) (y >>= g) := by
  cases x with
  | ok a =>
    obtain ⟨b, rfl, related⟩ := first
    exact next a b related
  | error cause =>
    intro calm
    rw [first calm]
    rfl

theorem orElse {o : Outcome α} {p : Outcome β} {f : Failure → Outcome α} {g : Failure → Outcome β}
    (first : Follows R o.result p.result)
    (recovery : ∀ cause, cause.isViolation = false → Follows R (f cause).result (g cause).result) :
    Follows R (o.orElse f).result (p.orElse g).result := by
  unfold Outcome.orElse
  cases done : o.result with
  | ok a =>
    rw [done] at first
    obtain ⟨b, found, related⟩ := first
    simp only [found, done]
    exact ⟨b, rfl, related⟩
  | error cause =>
    rw [done] at first
    cases violation : cause.isViolation with
    | true =>
      simp only [violation, ↓reduceIte, done]
      intro calm
      simp [violation] at calm
    | false =>
      rw [first violation]
      simpa [violation] using recovery cause violation

theorem all {ι : Type} {f : ι → Outcome α} {g : ι → Outcome β} {is : List ι}
    (each : ∀ i ∈ is, Follows R (f i).result (g i).result) :
    Follows (List.Forall₂ R) (Outcome.all (is.map f)).result (Outcome.all (is.map g)).result := by
  induction is with
  | nil => exact ⟨[], rfl, .nil⟩
  | cons i is ih =>
    have first := each i (by simp)
    have rest := ih fun j member => each j (List.mem_cons_of_mem i member)
    rw [List.map_cons, List.map_cons, Outcome.result_all_cons, Outcome.result_all_cons]
    refine first.bind fun a b related => rest.bind fun as bs others => ?_
    exact ⟨b :: bs, rfl, .cons related others⟩

end Follows
end PageLayers
