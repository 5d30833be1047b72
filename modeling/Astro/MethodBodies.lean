import Mathlib.Init

/-!
# Method bodies that return early, raise and send output

A statement works on a state and sends output while it runs. It ends with a value, by
`return`, which skips the rest of the method, or by an exception, which skips the rest of
the innermost `try`. What was sent before an exception stays sent.
-/

namespace Astro.MethodBodies

inductive Ending (α : Type) where
  | value (a : α)
  | returned
  | raised
  deriving DecidableEq

structure Effect (σ ω α : Type) where
  output : List ω
  state : σ
  ending : Ending α

structure Statement (σ ω α : Type) where
  run : σ → Effect σ ω α

section Definitions
variable {σ ω α β : Type}

namespace Effect

/-- The effect with output that was sent before. -/
def after (out : List ω) (r : Effect σ ω α) : Effect σ ω α := { r with output := out ++ r.output }

def andThen (r : Effect σ ω α) (f : α → Statement σ ω β) : Effect σ ω β :=
  match r.ending with
  | .value a => ((f a).run r.state).after r.output
  | .returned => ⟨r.output, r.state, .returned⟩
  | .raised => ⟨r.output, r.state, .raised⟩

def handledBy (r : Effect σ ω Unit) (handler : Statement σ ω Unit) : Effect σ ω Unit :=
  match r.ending with
  | .raised => (handler.run r.state).after r.output
  | _ => r

end Effect

namespace Statement

instance : Monad (Statement σ ω) where
  pure a := ⟨fun s => ⟨[], s, .value a⟩⟩
  bind p f := ⟨fun s => (p.run s).andThen f⟩

def read : Statement σ ω σ := ⟨fun s => ⟨[], s, .value s⟩⟩

def modify (f : σ → σ) : Statement σ ω Unit := ⟨fun s => ⟨[], f s, .value ()⟩⟩

def send (item : ω) : Statement σ ω Unit := ⟨fun s => ⟨[item], s, .value ()⟩⟩

def exit : Statement σ ω α := ⟨fun s => ⟨[], s, .returned⟩⟩

def raise : Statement σ ω α := ⟨fun s => ⟨[], s, .raised⟩⟩

/-- A call that changes the state and returns a value or raises. -/
def call (f : σ → σ × Option α) : Statement σ ω α := ⟨fun s =>
  ⟨[], (f s).1, match (f s).2 with
    | some a => .value a
    | none => .raised⟩⟩

def orRaise : Option α → Statement σ ω α
  | some a => pure a
  | none => raise

/-- `try: p except Exception: handler`. -/
def except (p handler : Statement σ ω Unit) : Statement σ ω Unit :=
  ⟨fun s => (p.run s).handledBy handler⟩

/-- An exception is noted on the console only. -/
def attempt (p : Statement σ ω Unit) : Statement σ ω Unit := except p (pure ())

def onlyIf (c : Prop) [Decidable c] (p : Statement σ ω Unit) : Statement σ ω Unit :=
  if c then p else pure ()

end Statement
end Definitions

section Evaluation
variable {σ ω α β : Type}

@[simp] theorem Effect.after_mk (out out' : List ω) (s : σ) (e : Ending α) :
    Effect.after out ⟨out', s, e⟩ = ⟨out ++ out', s, e⟩ := rfl

@[simp] theorem Effect.after_nil (r : Effect σ ω α) : r.after [] = r := rfl

@[simp] theorem Effect.andThen_value (out : List ω) (s : σ) (a : α) (f : α → Statement σ ω β) :
    (⟨out, s, .value a⟩ : Effect σ ω α).andThen f = ((f a).run s).after out := rfl

@[simp] theorem Effect.andThen_returned (out : List ω) (s : σ) (f : α → Statement σ ω β) :
    (⟨out, s, .returned⟩ : Effect σ ω α).andThen f = ⟨out, s, .returned⟩ := rfl

@[simp] theorem Effect.andThen_raised (out : List ω) (s : σ) (f : α → Statement σ ω β) :
    (⟨out, s, .raised⟩ : Effect σ ω α).andThen f = ⟨out, s, .raised⟩ := rfl

@[simp] theorem Effect.handledBy_value (out : List ω) (s : σ) (handler : Statement σ ω Unit) :
    (⟨out, s, .value ()⟩ : Effect σ ω Unit).handledBy handler = ⟨out, s, .value ()⟩ := rfl

@[simp] theorem Effect.handledBy_returned (out : List ω) (s : σ) (handler : Statement σ ω Unit) :
    (⟨out, s, .returned⟩ : Effect σ ω Unit).handledBy handler = ⟨out, s, .returned⟩ := rfl

@[simp] theorem Effect.handledBy_raised (out : List ω) (s : σ) (handler : Statement σ ω Unit) :
    (⟨out, s, .raised⟩ : Effect σ ω Unit).handledBy handler = (handler.run s).after out := rfl

namespace Statement

@[simp] theorem run_pure (a : α) (s : σ) :
    (pure a : Statement σ ω α).run s = ⟨[], s, .value a⟩ := rfl

@[simp] theorem run_bind (p : Statement σ ω α) (f : α → Statement σ ω β) (s : σ) :
    (p >>= f).run s = (p.run s).andThen f := rfl

@[simp] theorem run_exit (s : σ) : (exit : Statement σ ω α).run s = ⟨[], s, .returned⟩ := rfl

theorem run_call_some {f : σ → σ × Option α} {s t : σ} {a : α} (h : f s = (t, some a)) :
    (call f : Statement σ ω α).run s = ⟨[], t, .value a⟩ := by
  simp only [call, h]

theorem run_call_none {f : σ → σ × Option α} {s t : σ} (h : f s = (t, none)) :
    (call f : Statement σ ω α).run s = ⟨[], t, .raised⟩ := by
  simp only [call, h]

theorem run_bind_value {p : Statement σ ω α} {f : α → Statement σ ω β} {out : List ω}
    {s t : σ} {a : α} (h : p.run s = ⟨out, t, .value a⟩) :
    (p >>= f).run s = ((f a).run t).after out := by
  rw [run_bind, h, Effect.andThen_value]

theorem run_bind_raised {p : Statement σ ω α} {f : α → Statement σ ω β} {out : List ω} {s t : σ}
    (h : p.run s = ⟨out, t, .raised⟩) : (p >>= f).run s = ⟨out, t, .raised⟩ := by
  rw [run_bind, h, Effect.andThen_raised]

theorem run_bind_returned {p : Statement σ ω α} {f : α → Statement σ ω β} {out : List ω} {s t : σ}
    (h : p.run s = ⟨out, t, .returned⟩) : (p >>= f).run s = ⟨out, t, .returned⟩ := by
  rw [run_bind, h, Effect.andThen_returned]

theorem bind_unit (p : Statement σ ω Unit) : (p >>= fun _ => pure ()) = p := by
  have h : ∀ s, (p.run s).andThen (fun _ => pure ()) = p.run s := by
    intro s
    obtain ⟨out, t, ending⟩ := p.run s
    cases ending <;> simp
  exact congrArg Statement.mk (funext h)

theorem value_bind (a : α) (f : α → Statement σ ω β) : (pure a >>= f) = f a := rfl

@[simp] theorem run_except (p handler : Statement σ ω Unit) (s : σ) :
    (except p handler).run s = (p.run s).handledBy handler := rfl

theorem run_attempt_raised {p : Statement σ ω Unit} {out : List ω} {s t : σ}
    (h : p.run s = ⟨out, t, .raised⟩) : (attempt p).run s = ⟨out, t, .value ()⟩ := by
  rw [attempt, run_except, h, Effect.handledBy_raised, run_pure, Effect.after_mk, List.append_nil]

theorem run_attempt_returned {p : Statement σ ω Unit} {out : List ω} {s t : σ}
    (h : p.run s = ⟨out, t, .returned⟩) : (attempt p).run s = ⟨out, t, .returned⟩ := by
  rw [attempt, run_except, h, Effect.handledBy_returned]

theorem onlyIf_pos {c : Prop} [Decidable c] (h : c) (p : Statement σ ω Unit) : onlyIf c p = p :=
  if_pos h

theorem onlyIf_neg {c : Prop} [Decidable c] (h : ¬ c) (p : Statement σ ω Unit) :
    onlyIf c p = pure () :=
  if_neg h

/-- What is sent and how the statement ends does not depend on the state, which is left
alone. -/
def Stateless (p : Statement σ ω α) : Prop := ∃ out ending, ∀ s, p.run s = ⟨out, s, ending⟩

theorem stateless_pure (a : α) : Stateless (pure a : Statement σ ω α) :=
  ⟨[], .value a, fun _ => rfl⟩

theorem stateless_send (item : ω) : Stateless (send item : Statement σ ω Unit) :=
  ⟨[item], .value (), fun _ => rfl⟩

theorem stateless_exit : Stateless (exit : Statement σ ω α) := ⟨[], .returned, fun _ => rfl⟩

theorem stateless_raise : Stateless (raise : Statement σ ω α) := ⟨[], .raised, fun _ => rfl⟩

theorem stateless_orRaise (a : Option α) : Stateless (orRaise a : Statement σ ω α) := by
  cases a with
  | none => exact stateless_raise
  | some a => exact stateless_pure a

theorem Stateless.bind {p : Statement σ ω α} {f : α → Statement σ ω β} (hp : Stateless p)
    (hf : ∀ a, Stateless (f a)) : Stateless (p >>= f) := by
  obtain ⟨out, ending, hp⟩ := hp
  cases ending with
  | value a =>
    obtain ⟨out', ending', hf⟩ := hf a
    exact ⟨out ++ out', ending', fun s => by rw [run_bind_value (hp s), hf, Effect.after_mk]⟩
  | returned => exact ⟨out, .returned, fun s => run_bind_returned (hp s)⟩
  | raised => exact ⟨out, .raised, fun s => run_bind_raised (hp s)⟩

theorem Stateless.attempt {p : Statement σ ω Unit} (hp : Stateless p) : Stateless (attempt p) := by
  obtain ⟨out, ending, hp⟩ := hp
  cases ending with
  | value a =>
    exact ⟨out, .value (), fun s =>
      by rw [Statement.attempt, run_except, hp, Effect.handledBy_value]⟩
  | returned => exact ⟨out, .returned, fun s => run_attempt_returned (hp s)⟩
  | raised => exact ⟨out, .value (), fun s => run_attempt_raised (hp s)⟩

theorem Stateless.onlyIf {p : Statement σ ω Unit} (hp : Stateless p) (c : Prop) [Decidable c] :
    Stateless (onlyIf c p) := by
  unfold Statement.onlyIf
  split
  · exact hp
  · exact stateless_pure ()

end Statement
end Evaluation

end Astro.MethodBodies
