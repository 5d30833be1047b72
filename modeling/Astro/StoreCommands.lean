import Mathlib.Data.Set.Function

/-!
# Commands with declared footprints on a shared store

A command declares the locations it reads and those it may write; its two laws
say that it keeps everything else and that its result depends only on what it
reads. A straight-line program has live locations: those whose present contents
it still uses. A program whose live locations nobody else writes produces what it
produces alone, whatever is interleaved with it.
-/

namespace Astro.StoreCommands

universe u v

/-- A possibly failing store transformer with lawful read and write sets. -/
structure Command (ι : Type u) (β : Type v) where
  reads : Set ι
  writes : Set ι
  effect : (ι → β) → Option (ι → β)
  frame : ∀ {s s' : ι → β}, effect s = some s' → Set.EqOn s' s writesᶜ
  reads_only : ∀ {s t s' : ι → β}, Set.EqOn s t reads → effect s = some s' →
    ∃ t', effect t = some t' ∧ Set.EqOn s' t' writes

variable {ι : Type u} {β : Type v}

namespace Command

def skip : Command ι β where
  reads := ∅
  writes := ∅
  effect := some
  frame h := by rw [Option.some.inj h]; exact Set.eqOn_refl _ _
  reads_only _ _ := ⟨_, rfl, Set.eqOn_empty _ _⟩

/-- Compute one value from the locations read and store it at the target. -/
def assign [DecidableEq ι] (reads : Set ι) (target : ι) (value : (ι → β) → Option β)
    (hvalue : ∀ s t : ι → β, Set.EqOn s t reads → value s = value t) : Command ι β where
  reads := reads
  writes := {target}
  effect s := (value s).map (Function.update s target)
  frame := by
    intro s s' h l hl
    obtain ⟨v, -, rfl⟩ := Option.map_eq_some_iff.mp h
    exact Function.update_of_ne hl v s
  reads_only := by
    intro s t s' heq h
    obtain ⟨v, hv, rfl⟩ := Option.map_eq_some_iff.mp h
    refine ⟨Function.update t target v, by rw [← hvalue s t heq, hv]; rfl, ?_⟩
    rintro l rfl
    simp

end Command

def execAll : List (Command ι β) → (ι → β) → Option (ι → β)
  | [], s => some s
  | c :: cs, s => (c.effect s).bind (execAll cs)

theorem execAll_append (cs ds : List (Command ι β)) (s : ι → β) :
    execAll (cs ++ ds) s = (execAll cs s).bind (execAll ds) := by
  induction cs generalizing s with
  | nil => rfl
  | cons c cs ih =>
    simp only [List.cons_append, execAll, Option.bind_assoc]
    congr 1
    funext t
    exact ih t

/-- The locations whose contents the program, observed at `out`, still uses. -/
def live (out : Set ι) : List (Command ι β) → Set ι
  | [] => out
  | c :: cs => c.reads ∪ (live out cs \ c.writes)

/-- Live locations are observed at the end or read by one of the commands. -/
theorem live_subset {out bound : Set ι} {cs : List (Command ι β)} (hout : out ⊆ bound)
    (hreads : ∀ c ∈ cs, c.reads ⊆ bound) : live out cs ⊆ bound := by
  induction cs with
  | nil => exact hout
  | cons c cs ih =>
    refine Set.union_subset (hreads c List.mem_cons_self) (Set.sdiff_subset.trans ?_)
    exact ih (fun d hd => hreads d (List.mem_cons_of_mem c hd))

/-- The program has done `past` and has `rest` ahead of it; on its live locations
the store looks as if it had run alone from `start`. -/
def AgreesWithSolo (out : Set ι) (start : ι → β) (past rest : List (Command ι β))
    (s : ι → β) : Prop :=
  ∃ t, execAll past start = some t ∧ Set.EqOn s t (live out rest)

namespace AgreesWithSolo

variable {out : Set ι} {start s s' : ι → β} {past rest : List (Command ι β)} {c : Command ι β}

theorem initial (out : Set ι) (s : ι → β) (cs : List (Command ι β)) :
    AgreesWithSolo out s [] cs s := ⟨s, rfl, Set.eqOn_refl _ _⟩

/-- The program's own next command keeps the agreement. -/
theorem own (h : AgreesWithSolo out start past (c :: rest) s) (he : c.effect s = some s') :
    AgreesWithSolo out start (past ++ [c]) rest s' := by
  obtain ⟨t, ht, hagree⟩ := h
  have hreads : Set.EqOn s t c.reads := hagree.mono Set.subset_union_left
  obtain ⟨t', ht', hwrites⟩ := c.reads_only hreads he
  refine ⟨t', by simp [execAll_append, ht, execAll, ht'], ?_⟩
  intro l hl
  by_cases hw : l ∈ c.writes
  · exact hwrites hw
  · calc
      s' l = s l := c.frame he hw
      _ = t l := hagree (Or.inr ⟨hl, hw⟩)
      _ = t' l := (c.frame ht' hw).symm

theorem foreign (h : AgreesWithSolo out start past rest s) {W : Set ι}
    (hframe : Set.EqOn s' s Wᶜ) (hW : live out rest ⊆ Wᶜ) :
    AgreesWithSolo out start past rest s' := by
  obtain ⟨t, ht, hagree⟩ := h
  refine ⟨t, ht, ?_⟩
  intro l hl
  exact (hframe (hW hl)).trans (hagree hl)

theorem finished (h : AgreesWithSolo out start past [] s) :
    ∃ t, execAll past start = some t ∧ Set.EqOn s t out := h

end AgreesWithSolo

end Astro.StoreCommands
