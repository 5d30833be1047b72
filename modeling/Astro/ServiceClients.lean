import Mathlib.Data.List.Basic

/-!
# Clients of a service

A client ends with a result, or sends a request and goes on with the answer. A service has a state
and may answer in several ways. The rules below put what a client ensures together from what its
requests ensure.
-/

namespace Astro.ServiceClients

variable {ρ α β γ ι σ : Type}

inductive Client (ρ α β : Type) where
  | done (result : β)
  | call (request : ρ) (next : α → Client ρ α β)

namespace Client

def bind : Client ρ α β → (β → Client ρ α γ) → Client ρ α γ
  | done result, f => f result
  | call request next, f => call request fun answer => (next answer).bind f

/-- Go on only after a success. -/
def andThen (c : Client ρ α (Option β)) (f : β → Client ρ α (Option γ)) : Client ρ α (Option γ) :=
  c.bind fun
    | some result => f result
    | none => done none

/-- A client for every item, also after a failure; one failure makes the whole fail. -/
def each (task : ι → Client ρ α (Option β)) : List ι → Client ρ α (Option Unit)
  | [] => done (some ())
  | item :: items => (task item).bind fun result => (each task items).bind fun results =>
      done (if result.isSome then results else none)

/-- Up to a number of attempts, until one succeeds. -/
def retry (task : Client ρ α (Option β)) : ℕ → Client ρ α (Option β)
  | 0 => done none
  | attempts + 1 => task.bind fun
    | some result => done (some result)
    | none => retry task attempts

/-- All requests, whatever the answers are. -/
def Asks (p : ρ → Prop) : Client ρ α β → Prop
  | done _ => True
  | call request next => p request ∧ ∀ answer, (next answer).Asks p

variable {p : ρ → Prop}

theorem Asks.mono {q : ρ → Prop} {c : Client ρ α β} (h : c.Asks p)
    (hpq : ∀ request, p request → q request) : c.Asks q := by
  induction c with
  | done result => trivial
  | call request next ih => exact ⟨hpq request h.1, fun answer => ih answer (h.2 answer)⟩

theorem Asks.bind {c : Client ρ α β} {f : β → Client ρ α γ} (h : c.Asks p)
    (hf : ∀ result, (f result).Asks p) :
    (c.bind f).Asks p := by
  induction c with
  | done result => exact hf result
  | call request next ih => exact ⟨h.1, fun answer => ih answer (h.2 answer)⟩

theorem Asks.andThen {c : Client ρ α (Option β)} {f : β → Client ρ α (Option γ)} (h : c.Asks p)
    (hf : ∀ result, (f result).Asks p) : (c.andThen f).Asks p := by
  refine h.bind fun result => ?_
  cases result with
  | none => trivial
  | some result => exact hf result

theorem Asks.each {task : ι → Client ρ α (Option β)} {items : List ι}
    (h : ∀ item ∈ items, (task item).Asks p) :
    (each task items).Asks p := by
  induction items with
  | nil => trivial
  | cons item items ih =>
    obtain ⟨hitem, hitems⟩ := List.forall_mem_cons.mp h
    exact hitem.bind fun _ => (ih hitems).bind fun _ => trivial

theorem Asks.retry {task : Client ρ α (Option β)} (h : task.Asks p) (attempts : ℕ) :
    (task.retry attempts).Asks p := by
  induction attempts with
  | zero => trivial
  | succ attempts ih =>
    refine h.bind fun result => ?_
    cases result with
    | none => exact ih
    | some result => trivial

end Client

open Client

/-- A run against a service, from a state to a result and a state. -/
inductive Run (serves : σ → ρ → α → σ → Prop) : Client ρ α β → σ → β → σ → Prop
  | done (result : β) (s : σ) : Run serves (.done result) s result s
  | call {request : ρ} {next : α → Client ρ α β} {s t u : σ} {answer : α} {result : β}
      (h : serves s request answer t) (hnext : Run serves (next answer) t result u) :
      Run serves (.call request next) s result u

/-- Every run from a state with `P` ends with a result and a state with `Q`. -/
def Ensures (serves : σ → ρ → α → σ → Prop) (P : σ → Prop) (c : Client ρ α β)
    (Q : β → σ → Prop) : Prop :=
  ∀ s result t, P s → Run serves c s result t → Q result t

variable {serves : σ → ρ → α → σ → Prop} {P P' : σ → Prop}

theorem run_done_iff {result result' : β} {s t : σ} :
    Run serves (.done result) s result' t ↔ result' = result ∧ t = s := by
  constructor
  · rintro ⟨⟩
    exact ⟨rfl, rfl⟩
  · rintro ⟨rfl, rfl⟩
    exact .done _ _

theorem run_call_iff {request : ρ} {next : α → Client ρ α β} {result : β} {s u : σ} :
    Run serves (.call request next) s result u ↔
      ∃ answer t, serves s request answer t ∧ Run serves (next answer) t result u := by
  constructor
  · rintro (_ | ⟨h, hnext⟩)
    exact ⟨_, _, h, hnext⟩
  · rintro ⟨answer, t, h, hnext⟩
    exact .call h hnext

theorem run_bind_iff {c : Client ρ α β} {f : β → Client ρ α γ} {result : γ} {s u : σ} :
    Run serves (c.bind f) s result u ↔
      ∃ middle t, Run serves c s middle t ∧ Run serves (f middle) t result u := by
  induction c generalizing s with
  | done middle =>
    simp only [Client.bind, run_done_iff]
    constructor
    · exact fun h => ⟨middle, s, ⟨rfl, rfl⟩, h⟩
    · rintro ⟨_, _, ⟨rfl, rfl⟩, h⟩
      exact h
  | call request next ih =>
    simp only [Client.bind, run_call_iff, ih]
    constructor
    · rintro ⟨answer, t, h, middle, v, hnext, hrest⟩
      exact ⟨middle, v, ⟨answer, t, h, hnext⟩, hrest⟩
    · rintro ⟨middle, v, ⟨answer, t, h, hnext⟩, hrest⟩
      exact ⟨answer, t, h, middle, v, hnext, hrest⟩

/-- A run does not depend on how requests are answered that are never sent. -/
theorem Run.mono {serves' : σ → ρ → α → σ → Prop} {p : ρ → Prop} {c : Client ρ α β} {s t : σ}
    {result : β} (h : Run serves c s result t) (hasks : c.Asks p)
    (hserves : ∀ s request answer t, p request → serves s request answer t →
      serves' s request answer t) :
    Run serves' c s result t := by
  induction h with
  | done result s => exact .done result s
  | call h _ ih => exact .call (hserves _ _ _ _ hasks.1 h) (ih (hasks.2 _))

/-- A service that always answers ends every client. -/
theorem exists_run (htotal : ∀ s request, ∃ answer t, serves s request answer t)
    (c : Client ρ α β) (s : σ) :
    ∃ result t, Run serves c s result t := by
  induction c generalizing s with
  | done result => exact ⟨result, s, .done result s⟩
  | call request next ih =>
    obtain ⟨answer, t, h⟩ := htotal s request
    obtain ⟨result, u, hnext⟩ := ih answer t
    exact ⟨result, u, .call h hnext⟩

namespace Ensures

theorem done {Q : β → σ → Prop} {result : β} (h : ∀ s, P s → Q result s) :
    Ensures serves P (.done result) Q := by
  intro s result' t hs hrun
  obtain ⟨rfl, rfl⟩ := run_done_iff.mp hrun
  exact h _ hs

theorem call {Q : β → σ → Prop} {request : ρ} {next : α → Client ρ α β} (middle : α → σ → Prop)
    (h : ∀ s answer t, P s → serves s request answer t → middle answer t)
    (hnext : ∀ answer, Ensures serves (middle answer) (next answer) Q) :
    Ensures serves P (.call request next) Q := by
  intro s result u hs hrun
  obtain ⟨answer, t, hserves, hrest⟩ := run_call_iff.mp hrun
  exact hnext answer t result u (h s answer t hs hserves) hrest

theorem bind {Q : β → σ → Prop} {R : γ → σ → Prop} {c : Client ρ α β} {f : β → Client ρ α γ}
    (h : Ensures serves P c Q) (hnext : ∀ result, Ensures serves (Q result) (f result) R) :
    Ensures serves P (c.bind f) R := by
  intro s result u hs hrun
  obtain ⟨middle, t, hfirst, hrest⟩ := run_bind_iff.mp hrun
  exact hnext middle t result u (h s middle t hs hfirst) hrest

/-- After a failure the rest is not run. -/
theorem andThen {Q : Option β → σ → Prop} {R : Option γ → σ → Prop} {c : Client ρ α (Option β)}
    {f : β → Client ρ α (Option γ)} (h : Ensures serves P c Q) (hfailed : ∀ s, Q none s → R none s)
    (hnext : ∀ result, Ensures serves (Q (some result)) (f result) R) :
    Ensures serves P (c.andThen f) R := by
  refine h.bind fun result => ?_
  cases result with
  | none => exact Ensures.done hfailed
  | some result => exact hnext result

theorem imp {Q Q' : β → σ → Prop} {c : Client ρ α β} (h : Ensures serves P c Q)
    (hpre : ∀ s, P' s → P s) (hpost : ∀ result s, Q result s → Q' result s) :
    Ensures serves P' c Q' :=
  fun s result t hs hrun => hpost result t (h s result t (hpre s hs) hrun)

theorem and {Q Q' : β → σ → Prop} {c : Client ρ α β} (h : Ensures serves P c Q)
    (h' : Ensures serves P' c Q') :
    Ensures serves (fun s => P s ∧ P' s) c fun result s => Q result s ∧ Q' result s :=
  fun s result t hs hrun => ⟨h s result t hs.1 hrun, h' s result t hs.2 hrun⟩

/-- What every task keeps, the tasks for all items keep. -/
theorem each {task : ι → Client ρ α (Option β)} {items : List ι}
    (h : ∀ item ∈ items, Ensures serves P (task item) fun _ => P) :
    Ensures serves P (each task items) fun _ => P := by
  induction items with
  | nil => exact Ensures.done fun _ => id
  | cons item items ih =>
    obtain ⟨hitem, hitems⟩ := List.forall_mem_cons.mp h
    exact hitem.bind fun _ => (ih hitems).bind fun _ => Ensures.done fun _ => id

/-- If all tasks succeed, all of them have done what they are for, provided that none undoes it. -/
theorem each_forall {task : ι → Client ρ α (Option β)} {G : ι → σ → Prop} {items : List ι}
    (h : ∀ item ∈ items, Ensures serves P (task item) fun result s =>
      P s ∧ (result.isSome = true → G item s))
    (hkeep : ∀ item ∈ items, ∀ other, Ensures serves (G other) (task item) fun _ => G other) :
    Ensures serves P (Client.each task items) fun result s =>
      P s ∧ (result.isSome = true → ∀ item ∈ items, G item s) := by
  induction items with
  | nil => exact Ensures.done fun s hs => ⟨hs, fun _ item hitem => absurd hitem List.not_mem_nil⟩
  | cons item items ih =>
    obtain ⟨hitem, hitems⟩ := List.forall_mem_cons.mp h
    obtain ⟨-, hkeeps⟩ := List.forall_mem_cons.mp hkeep
    refine hitem.bind fun result => ?_
    cases result with
    | none =>
      exact (ih hitems hkeeps).bind (fun _ => Ensures.done fun s hs =>
        ⟨hs.1, fun hsome => absurd hsome Bool.false_ne_true⟩)
        |>.imp (fun _ hs => hs.1) fun _ _ => id
    | some result =>
      have hboth :=
        (ih hitems hkeeps).and (Ensures.each fun other hother => hkeeps other hother item)
      refine hboth.imp (fun s hs => ⟨hs.1, hs.2 rfl⟩) (fun _ _ => id) |>.bind fun results =>
        Ensures.done fun s hs => ?_
      exact ⟨hs.1.1, fun hsome => List.forall_mem_cons.mpr ⟨hs.2, hs.1.2 hsome⟩⟩

theorem each_isSome {task : ι → Client ρ α (Option β)} {items : List ι}
    (h : ∀ item ∈ items, Ensures serves P (task item) fun result s => P s ∧ result.isSome = true) :
    Ensures serves P (Client.each task items) fun result s => P s ∧ result.isSome = true := by
  induction items with
  | nil => exact Ensures.done fun s hs => ⟨hs, rfl⟩
  | cons item items ih =>
    obtain ⟨hitem, hitems⟩ := List.forall_mem_cons.mp h
    refine hitem.bind fun result => ?_
    cases result with
    | none => exact fun s _ _ hs _ => absurd hs.2 Bool.false_ne_true
    | some result =>
      exact ((ih hitems).imp (fun _ hs => hs.1) fun _ _ => id).bind fun _ =>
        Ensures.done fun _ => id

/-- What no request of a kind changes, a client of such requests keeps. -/
theorem of_asks {p : ρ → Prop} {c : Client ρ α β} (hasks : c.Asks p)
    (h : ∀ s request answer t, p request → P s → serves s request answer t → P t) :
    Ensures serves P c fun _ => P := by
  induction c with
  | done result => exact Ensures.done fun _ => id
  | call request next ih =>
    exact Ensures.call (fun _ => P) (fun s answer t => h s request answer t hasks.1) fun answer =>
      ih answer (hasks.2 answer)

end Ensures

end Astro.ServiceClients
