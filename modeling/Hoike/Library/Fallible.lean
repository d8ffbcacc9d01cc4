/-
Specifications for computations over a state that may fail.

The monad is the standard `ExceptT` over `StateM`: a failed step keeps the
effects of the steps before it.  Callers that need atomicity must stage their
changes elsewhere, so `Ensures` has one postcondition for success and one for
failure and both outcomes are always accounted for.
-/

import Mathlib.Data.List.Forall2

theorem Except.bind_eq_ok {ε α β : Type} {first : Except ε α}
    {next : α → Except ε β} {value : β} :
    (first >>= next) = .ok value ↔
      ∃ middle, first = .ok middle ∧ next middle = .ok value := by
  cases first with
  | error error =>
      constructor
      · intro impossible
        cases impossible
      · rintro ⟨_, impossible, _⟩
        cases impossible
  | ok middle =>
      constructor
      · intro rest
        exact ⟨middle, rfl, rest⟩
      · rintro ⟨_, same, rest⟩
        cases same
        exact rest

theorem Except.bind_eq_error {ε α β : Type} {first : Except ε α}
    {next : α → Except ε β} {error : ε} :
    (first >>= next) = .error error ↔
      first = .error error ∨ ∃ middle, first = .ok middle ∧ next middle = .error error := by
  cases first with
  | error reason =>
      change Except.error reason = _ ↔ _
      simp
  | ok middle =>
      change next middle = _ ↔ _
      simp

theorem Except.exists_bind_eq_ok {ε α β : Type} {first : Except ε α}
    {next : α → Except ε β} :
    (∃ value, (first >>= next) = .ok value) ↔
      ∃ middle, first = .ok middle ∧ ∃ value, next middle = .ok value := by
  constructor
  · intro accepted
    obtain ⟨value, accepted⟩ := accepted
    obtain ⟨middle, before, after⟩ := Except.bind_eq_ok.mp accepted
    exact ⟨middle, before, value, after⟩
  · intro accepted
    obtain ⟨middle, before, value, after⟩ := accepted
    exact ⟨value, Except.bind_eq_ok.mpr ⟨middle, before, after⟩⟩

theorem Except.exists_of_isOk {ε α : Type} {result : Except ε α}
    (succeeds : result.isOk = true) : ∃ value, result = .ok value := by
  cases result with
  | error error =>
      cases succeeds
  | ok value =>
      exact ⟨value, rfl⟩

theorem Except.toOption_eq_iff {ε α : Type} {left right : Except ε α} :
    left.toOption = right.toOption ↔ ∀ value, left = .ok value ↔ right = .ok value := by
  cases left with
  | error error =>
      cases right <;> simp [Except.toOption]
  | ok value =>
      cases right with
      | error error =>
          simp [Except.toOption]
      | ok other =>
          simp only [Except.toOption, Option.some.injEq, Except.ok.injEq]
          exact ⟨fun same _ => same ▸ Iff.rfl, fun agree => ((agree value).mp rfl).symm⟩

theorem Except.toOption_eq_some {ε α : Type} {result : Except ε α} {value : α} :
    result.toOption = some value ↔ result = .ok value := by
  cases result <;> simp [Except.toOption]

@[simp] theorem Except.mapError_eq_ok {ε ε' α : Type} {change : ε → ε'}
    {result : Except ε α} {value : α} :
    result.mapError change = .ok value ↔ result = .ok value := by
  cases result <;> simp [Except.mapError]

theorem Except.mapError_eq_error {ε ε' α : Type} {change : ε → ε'} {result : Except ε α}
    {error : ε'} :
    result.mapError change = .error error ↔
      ∃ before, result = .error before ∧ change before = error := by
  cases result <;> simp [Except.mapError]

theorem Except.map_eq_ok {ε α β : Type} {change : α → β} {result : Except ε α} {value : β} :
    result.map change = .ok value ↔ ∃ before, result = .ok before ∧ change before = value := by
  cases result <;> simp [Except.map]

theorem Except.map_bind {ε α β γ : Type} (change : β → γ) (first : Except ε α)
    (next : α → Except ε β) :
    (first >>= next).map change = first >>= fun value => (next value).map change := by
  cases first <;> rfl

def Except.require {ε : Type} (condition : Prop) [Decidable condition] (error : ε) :
    Except ε Unit :=
  if condition then .ok () else .error error

@[simp] theorem Except.require_eq_ok {ε : Type} {condition : Prop} [Decidable condition]
    {error : ε} {value : Unit} :
    Except.require condition error = .ok value ↔ condition := by
  unfold Except.require
  by_cases holds : condition <;> simp [holds]

theorem Except.require_eq_error {ε : Type} {condition : Prop} [Decidable condition]
    {error found : ε} :
    Except.require condition error = .error found ↔ ¬condition ∧ error = found := by
  unfold Except.require
  by_cases holds : condition <;> simp [holds]

theorem Except.forM_eq_ok {ε α : Type} {check : α → Except ε Unit} {items : List α}
    {value : PUnit} :
    items.forM check = .ok value ↔ ∀ item ∈ items, check item = .ok () := by
  induction items with
  | nil =>
      simp [pure, Except.pure]
  | cons item rest ih =>
      change check item >>= (fun _ => rest.forM check) = .ok value ↔ _
      rw [Except.bind_eq_ok, List.forall_mem_cons, ← ih]
      exact ⟨fun ⟨_, first, others⟩ => ⟨first, others⟩, fun ⟨first, others⟩ => ⟨_, first, others⟩⟩

theorem Except.mapM_eq_ok {ε α β : Type} {change : α → Except ε β} {items : List α}
    {results : List β} :
    items.mapM change = .ok results ↔
      List.Forall₂ (fun item result => change item = .ok result) items results := by
  induction items generalizing results with
  | nil =>
      rw [List.mapM_nil, List.forall₂_nil_left_iff]
      exact ⟨fun same => (Except.ok.inj same).symm, fun same => congrArg Except.ok same.symm⟩
  | cons item rest ih =>
      rw [List.mapM_cons, List.forall₂_cons_left_iff, Except.bind_eq_ok]
      constructor
      · rintro ⟨result, changed, remaining⟩
        obtain ⟨others, traversed, same⟩ := Except.bind_eq_ok.mp remaining
        exact ⟨result, others, changed, ih.mp traversed, (Except.ok.inj same).symm⟩
      · rintro ⟨result, others, changed, traversed, rfl⟩
        exact ⟨result, changed, Except.bind_eq_ok.mpr ⟨others, ih.mpr traversed, rfl⟩⟩

theorem Except.exists_mapM {ε α β : Type} {change : α → Except ε β} {items : List α}
    (each : ∀ item ∈ items, ∃ result, change item = .ok result) :
    ∃ results, items.mapM change = .ok results := by
  induction items with
  | nil =>
      exact ⟨[], rfl⟩
  | cons item rest ih =>
      obtain ⟨first, others⟩ := List.forall_mem_cons.mp each
      obtain ⟨result, changed⟩ := first
      obtain ⟨results, traversed⟩ := ih others
      exact ⟨result :: results, Except.mapM_eq_ok.mpr
        (List.Forall₂.cons changed (Except.mapM_eq_ok.mp traversed))⟩

theorem List.Forall₂.exists_left {α β : Type} {related : α → β → Prop} {items : List α}
    {results : List β} {result : β} (each : List.Forall₂ related items results)
    (member : result ∈ results) : ∃ item ∈ items, related item result := by
  induction each with
  | nil =>
      cases member
  | cons here _ ih =>
      rcases List.mem_cons.mp member with rfl | later
      · exact ⟨_, List.mem_cons_self, here⟩
      · obtain ⟨item, earlier, same⟩ := ih later
        exact ⟨item, List.mem_cons_of_mem _ earlier, same⟩

theorem List.Forall₂.exists_right {α β : Type} {related : α → β → Prop} {items : List α}
    {results : List β} {item : α} (each : List.Forall₂ related items results)
    (member : item ∈ items) : ∃ result ∈ results, related item result :=
  each.flip.exists_left member

theorem Except.mem_mapM {ε α β : Type} {change : α → Except ε β} {items : List α}
    {results : List β} {item : α} (traversed : items.mapM change = .ok results)
    (member : item ∈ items) : ∃ result ∈ results, change item = .ok result :=
  (Except.mapM_eq_ok.mp traversed).exists_right member

theorem Except.exists_of_mem_mapM {ε α β : Type} {change : α → Except ε β} {items : List α}
    {results : List β} {result : β} (traversed : items.mapM change = .ok results)
    (member : result ∈ results) : ∃ item ∈ items, change item = .ok result :=
  (Except.mapM_eq_ok.mp traversed).exists_left member

/-- What holds before a loop and is kept by each successful step holds of the
items done so far when the loop succeeds. -/
theorem Except.foldlM_induction {ε α β : Type} {step : β → α → Except ε β} {start : β}
    {motive : List α → β → Prop} (base : motive [] start)
    (next : ∀ front state item after, motive front state → step state item = .ok after →
      motive (front ++ [item]) after)
    {items : List α} {final : β} (done : items.foldlM step start = .ok final) :
    motive items final := by
  have behind : ∀ (rest front : List α) (state : β), motive front state →
      rest.foldlM step state = .ok final → motive (front ++ rest) final := by
    intro rest
    induction rest with
    | nil =>
        intro front state holds finished
        cases finished
        rw [List.append_nil]
        exact holds
    | cons item rest ih =>
        intro front state holds finished
        rw [List.foldlM_cons] at finished
        obtain ⟨after, stepped, finished⟩ := Except.bind_eq_ok.mp finished
        have later := ih (front ++ [item]) after (next front state item after holds stepped) finished
        rw [List.append_assoc] at later
        exact later
  exact behind items [] start base done

/-- A state transformer that may fail.  The state after a failure is kept. -/
abbrev Fallible (σ ε : Type) : Type → Type :=
  ExceptT ε (StateM σ)

namespace Fallible

variable {σ τ ε α β : Type}

def outcome (action : Fallible σ ε α) (state : σ) : Except ε α × σ :=
  StateT.run (ExceptT.run action) state

theorem eq_ok_of_isOk {action : Fallible σ ε α} {state : σ}
    (succeeds : (action.outcome state).1.isOk = true) :
    ∃ value after, action.outcome state = (.ok value, after) := by
  rcases run : action.outcome state with ⟨_ | value, after⟩
  · rw [run] at succeeds
    cases succeeds
  · exact ⟨value, after, rfl⟩

/-- Run an action on a value of its own.  The value is returned on success and
dropped on failure; the shared state is kept either way. -/
def withLocal (initial : τ) (action : Fallible (τ × σ) ε α) :
    Fallible σ ε (α × τ) :=
  ExceptT.mk fun state =>
    match action.outcome (initial, state) with
    | (.ok value, final, after) => (.ok (value, final), after)
    | (.error error, _, after) => (.error error, after)

def zoom (view : τ → σ) (put : σ → τ → τ) (action : Fallible σ ε α) : Fallible τ ε α :=
  ExceptT.mk fun state =>
    ((action.outcome (view state)).1, put (action.outcome (view state)).2 state)

def onShared (action : Fallible σ ε α) : Fallible (τ × σ) ε α :=
  zoom Prod.snd (fun after state => (state.1, after)) action

/-! ### Weakest preconditions -/

/-- Started in `state`, `action` either succeeds with `onOk` or fails with
`onError`, each of the result and the final state. -/
def Ensures (action : Fallible σ ε α) (state : σ)
    (onOk : α → σ → Prop) (onError : ε → σ → Prop) : Prop :=
  match action.outcome state with
  | (.ok value, after) => onOk value after
  | (.error error, after) => onError error after

variable {action : Fallible σ ε α} {next : α → Fallible σ ε β}
variable {state : σ} {onOk : α → σ → Prop} {onError : ε → σ → Prop}

theorem Ensures.of_ok (holds : Ensures action state onOk onError)
    {value : α} {after : σ} (run : action.outcome state = (.ok value, after)) :
    onOk value after := by
  unfold Ensures at holds
  rw [run] at holds
  exact holds

theorem Ensures.of_error (holds : Ensures action state onOk onError)
    {error : ε} {after : σ} (run : action.outcome state = (.error error, after)) :
    onError error after := by
  unfold Ensures at holds
  rw [run] at holds
  exact holds

theorem Ensures.intro
    (succeeded : ∀ value after, action.outcome state = (.ok value, after) →
      onOk value after)
    (failed : ∀ error after, action.outcome state = (.error error, after) →
      onError error after) :
    Ensures action state onOk onError := by
  unfold Ensures
  rcases run : action.outcome state with ⟨_ | _, after⟩
  · exact failed _ after run
  · exact succeeded _ after run

theorem Ensures.outcome (property : Except ε α × σ → Prop)
    (holds : Ensures action state (fun value after => property (.ok value, after))
      (fun error after => property (.error error, after))) :
    property (action.outcome state) := by
  rcases run : action.outcome state with ⟨_ | _, after⟩
  · exact holds.of_error run
  · exact holds.of_ok run

theorem Ensures.mono {onOk' : α → σ → Prop} {onError' : ε → σ → Prop}
    (holds : Ensures action state onOk onError)
    (weakerOk : ∀ value after, onOk value after → onOk' value after)
    (weakerError : ∀ error after, onError error after → onError' error after) :
    Ensures action state onOk' onError' :=
  Ensures.intro
    (fun value after run => weakerOk value after (holds.of_ok run))
    (fun error after run => weakerError error after (holds.of_error run))

theorem Ensures.and {onOk' : α → σ → Prop} {onError' : ε → σ → Prop}
    (left : Ensures action state onOk onError)
    (right : Ensures action state onOk' onError') :
    Ensures action state (fun value after => onOk value after ∧ onOk' value after)
      (fun error after => onError error after ∧ onError' error after) :=
  Ensures.intro
    (fun _ _ run => ⟨left.of_ok run, right.of_ok run⟩)
    (fun _ _ run => ⟨left.of_error run, right.of_error run⟩)

@[simp] theorem ensures_pure {value : α} :
    Ensures (pure value : Fallible σ ε α) state onOk onError ↔
      onOk value state := Iff.rfl

@[simp] theorem ensures_throw {error : ε} :
    Ensures (throw error : Fallible σ ε α) state onOk onError ↔
      onError error state := Iff.rfl

@[simp] theorem ensures_get {onOk : σ → σ → Prop} :
    Ensures (get : Fallible σ ε σ) state onOk onError ↔
      onOk state state := Iff.rfl

@[simp] theorem ensures_modify {change : σ → σ} {onOk : PUnit → σ → Prop} :
    Ensures (modify change : Fallible σ ε PUnit) state onOk onError ↔
      onOk ⟨⟩ (change state) := Iff.rfl

theorem ensures_liftM {result : Except ε α} :
    Ensures (liftM result : Fallible σ ε α) state onOk onError ↔
      (∀ value, result = .ok value → onOk value state) ∧
        (∀ error, result = .error error → onError error state) := by
  cases result with
  | error error =>
      constructor
      · intro holds
        refine ⟨?_, ?_⟩
        · intro value impossible
          cases impossible
        · intro error' same
          cases same
          exact holds
      · intro holds
        exact holds.2 error rfl
  | ok value =>
      constructor
      · intro holds
        refine ⟨?_, ?_⟩
        · intro value' same
          cases same
          exact holds
        · intro error impossible
          cases impossible
      · intro holds
        exact holds.1 value rfl

theorem ensures_bind {onOk : β → σ → Prop} :
    Ensures (action >>= next) state onOk onError ↔
      Ensures action state
        (fun value after => Ensures (next value) after onOk onError) onError := by
  have step : (action >>= next).outcome state =
      match action.outcome state with
      | (.ok value, after) => (next value).outcome after
      | (.error error, after) => (.error error, after) := by
    change (match action.outcome state with
      | (result, after) => (ExceptT.bindCont next result).run after) = _
    rcases action.outcome state with ⟨_ | _, after⟩ <;> rfl
  unfold Ensures
  rw [step]
  rcases action.outcome state with ⟨_ | _, after⟩ <;> rfl

theorem ensures_tryCatch {handler : ε → Fallible σ ε α} :
    Ensures (tryCatch action handler) state onOk onError ↔
      Ensures action state onOk
        (fun error after => Ensures (handler error) after onOk onError) := by
  have step : (tryCatch action handler).outcome state =
      match action.outcome state with
      | (.ok value, after) => (.ok value, after)
      | (.error error, after) => (handler error).outcome after := by
    change (match action.outcome state with
      | (result, after) => StateT.run (match result with
        | Except.ok value => pure (Except.ok value)
        | Except.error error => handler error) after) = _
    rcases action.outcome state with ⟨_ | _, after⟩ <;> rfl
  unfold Ensures
  rw [step]
  rcases action.outcome state with ⟨_ | _, after⟩ <;> rfl

theorem ensures_observing {onOk : Except ε α → σ → Prop} :
    Ensures (observing action) state onOk onError ↔
      Ensures action state (fun value after => onOk (.ok value) after)
        (fun error after => onOk (.error error) after) := by
  unfold observing
  rw [ensures_tryCatch, ensures_bind]
  rfl

theorem ensures_withLocal {initial : τ} {action : Fallible (τ × σ) ε α}
    {onOk : α × τ → σ → Prop} :
    Ensures (withLocal initial action) state onOk onError ↔
      Ensures action (initial, state)
        (fun value after => onOk (value, after.1) after.2)
        (fun error after => onError error after.2) := by
  have step : (withLocal initial action).outcome state =
      match action.outcome (initial, state) with
      | (.ok value, final, after) => (.ok (value, final), after)
      | (.error error, _, after) => (.error error, after) := rfl
  unfold Ensures
  rw [step]
  rcases action.outcome (initial, state) with ⟨_ | _, _, after⟩ <;> rfl

theorem ensures_zoom {view : τ → σ} {put : σ → τ → τ} {whole : τ}
    {onOk : α → τ → Prop} {onError : ε → τ → Prop} :
    Ensures (zoom view put action) whole onOk onError ↔
      Ensures action (view whole) (fun value after => onOk value (put after whole))
        (fun error after => onError error (put after whole)) := by
  have step : (zoom view put action).outcome whole =
      ((action.outcome (view whole)).1, put (action.outcome (view whole)).2 whole) := rfl
  unfold Ensures
  rw [step]
  rcases action.outcome (view whole) with ⟨_ | _, after⟩ <;> rfl

theorem ensures_onShared {own : τ} {onOk : α → τ × σ → Prop}
    {onError : ε → τ × σ → Prop} :
    Ensures (onShared action) (own, state) onOk onError ↔
      Ensures action state (fun value after => onOk value (own, after))
        (fun error after => onError error (own, after)) :=
  ensures_zoom

/-! ### Success -/

def Returns (action : Fallible σ ε α) (state : σ) : Prop :=
  Ensures action state (fun _ _ => True) (fun _ _ => False)

theorem returns_iff : Returns action state ↔ (action.outcome state).1.isOk = true := by
  unfold Returns Ensures
  rcases action.outcome state with ⟨_ | _, _⟩
  · exact ⟨False.elim, Bool.noConfusion⟩
  · exact ⟨fun _ => rfl, fun _ => trivial⟩

theorem Returns.ensures (succeeds : Returns action state)
    (holds : Ensures action state onOk onError) :
    Ensures action state onOk (fun _ _ => False) :=
  (Ensures.and succeeds holds).mono (fun _ _ both => both.2) (fun _ _ both => both.1)

theorem Ensures.ok_iff {condition : Prop} {holds : α → σ → Prop}
    (decided : Ensures action state (fun value after => holds value after ↔ condition)
      (fun _ _ => ¬ condition)) :
    (∃ value after, action.outcome state = (.ok value, after) ∧ holds value after) ↔
      condition := by
  constructor
  · rintro ⟨value, after, ran, held⟩
    exact (decided.of_ok ran).mp held
  · intro condition
    rcases ran : action.outcome state with ⟨error | value, after⟩
    · exact absurd condition (decided.of_error ran)
    · exact ⟨value, after, rfl, (decided.of_ok ran).mpr condition⟩

theorem ensures_liftM_or_false {result : Except ε α} :
    Ensures (liftM result : Fallible σ ε α) state onOk (fun _ _ => False) ↔
      ∃ value, result = .ok value ∧ onOk value state := by
  rw [ensures_liftM]
  cases result with
  | error error =>
      simp
  | ok value =>
      simp

/-! ### Loops

The invariant of a fold speaks about the items still to come, so that a step
may consume one of them. -/

theorem Ensures.foldlM {step : β → α → Fallible σ ε β} {onOk : β → σ → Prop}
    {onError : ε → σ → Prop} (invariant : List α → β → σ → Prop)
    {items : List α} {acc : β} {state : σ} (start : invariant items acc state)
    (advance : ∀ item rest acc state, invariant (item :: rest) acc state →
      Ensures (step acc item) state (invariant rest) onError)
    (finish : ∀ acc state, invariant [] acc state → onOk acc state) :
    Ensures (items.foldlM step acc) state onOk onError := by
  induction items generalizing acc state with
  | nil =>
      exact finish acc state start
  | cons item rest ih =>
      rw [List.foldlM_cons, ensures_bind]
      exact (advance item rest acc state start).mono
        (fun acc after holds => ih holds) (fun _ _ failed => failed)

/-- A loop over steps that cannot fail under an invariant is a fold. -/
theorem ensures_forM_of_total {step : α → Fallible σ ε PUnit} {advance : σ → α → σ}
    {holds : σ → Prop} (kept : ∀ state item, holds state → holds (advance state item))
    (total : ∀ state item, holds state → ∀ (onOk : PUnit → σ → Prop) (onError : ε → σ → Prop),
      Ensures (step item) state onOk onError ↔ onOk ⟨⟩ (advance state item))
    {items : List α} {state : σ} (start : holds state) {onOk : PUnit → σ → Prop}
    {onError : ε → σ → Prop} :
    Ensures (items.forM step) state onOk onError ↔ onOk ⟨⟩ (items.foldl advance state) := by
  induction items generalizing state with
  | nil =>
      exact Iff.rfl
  | cons item rest ih =>
      change Ensures (step item >>= fun _ => rest.forM step) state onOk onError ↔ _
      rw [ensures_bind, total state item start]
      exact ih (kept state item start)

end Fallible
