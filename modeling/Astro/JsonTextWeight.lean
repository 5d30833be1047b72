import Astro.JsonText
import Mathlib.Data.List.Count

/-!
# What escapes cost in a JSON text

A backslash weighs one, and so do the letters that the hexadecimal code of a backslash ends
with. Every character that has to be escaped is then one unit heavier in a text than the
character itself, however it is written, and every other character is at least as heavy. A
text that is decoded to a value is therefore as heavy as the value with its escapes.
-/

namespace Astro.JsonText

def special (c : Char) : Bool := c = '"' || c = '\\' || c.toNat < 0x20

def heavy (c : Char) : Bool := c = '\\' || c = 'c' || c = 'C'

def weight (text : Str) : ℕ := text.countP heavy

def specials (s : Str) : ℕ := s.countP special

mutual

def burden : Json → ℕ
  | .str s => weight s + specials s
  | .arr vs => burdenItems vs
  | .obj fields => burdenMembers fields
  | .null | .bool _ | .int _ | .float _ => 0

def burdenItems : List Json → ℕ
  | [] => 0
  | v :: vs => burden v + burdenItems vs

def burdenMembers : List (Str × Json) → ℕ
  | [] => 0
  | (key, v) :: ms => weight key + specials key + burden v + burdenMembers ms

end

@[simp] theorem weight_nil : weight [] = 0 := rfl

@[simp] theorem specials_nil : specials [] = 0 := rfl

theorem weight_cons (c : Char) (text : Str) :
    weight (c :: text) = weight text + if heavy c then 1 else 0 := List.countP_cons

theorem specials_cons (c : Char) (s : Str) :
    specials (c :: s) = specials s + if special c then 1 else 0 := List.countP_cons

theorem weight_le_of_suffix {rest text : Str} (h : rest <:+ text) : weight rest ≤ weight text :=
  h.sublist.countP_le

theorem weight_skip (text : Str) : weight (skip text) ≤ weight text :=
  weight_le_of_suffix (List.dropWhile_suffix _)

theorem burden_char_le {c : Char} (h : c ≠ '\\') :
    (if heavy c then 1 else 0) + (if special c then 1 else 0) ≤ 1 := by
  by_cases hc : heavy c = true
  · have hletter : c = 'c' ∨ c = 'C' := by simpa [heavy, h] using hc
    rcases hletter with rfl | rfl <;> decide
  · split_ifs <;> omega

theorem hexDigit_cases {c : Char} {n : ℕ} (h : hexDigit c = some n) :
    n < 10 ∨ n < 16 ∧ (c.toNat = 87 + n ∨ c.toNat = 55 + n) := by
  unfold hexDigit at h
  split_ifs at h with hdigit hlower hupper
  · have hbound : c.toNat ≤ 57 := (Char.isDigit_iff_toNat.mp hdigit).2
    have hvalue : c.toNat - 48 = n := Option.some.inj h
    omega
  · have hbounds : 97 ≤ c.toNat ∧ c.toNat ≤ 102 := hlower
    have hvalue : c.toNat - 97 + 10 = n := Option.some.inj h
    omega
  · have hbounds : 65 ≤ c.toNat ∧ c.toNat ≤ 70 := hupper
    have hvalue : c.toNat - 65 + 10 = n := Option.some.inj h
    omega

theorem heavy_of_hexDigit {c : Char} (h : hexDigit c = some 12) : heavy c = true := by
  rcases hexDigit_cases h with hdigit | ⟨-, hc | hc⟩
  · omega
  · have hletter : c = 'c' := Char.toNat_inj.mp hc
    rw [hletter]
    rfl
  · have hletter : c = 'C' := Char.toNat_inj.mp hc
    rw [hletter]
    rfl

theorem hexDigit_lt {c : Char} {n : ℕ} (h : hexDigit c = some n) : n < 16 := by
  rcases hexDigit_cases h with hdigit | ⟨hletter, -⟩
  · omega
  · exact hletter

theorem hex4_weight {text rest : Str} {code : ℕ} (h : hex4 text = some (code, rest)) :
    weight rest + (if code = 0x5c then 1 else 0) ≤ weight text := by
  unfold hex4 at h
  split at h
  · rename_i a b c d tail
    simp only [Option.bind_eq_bind, Option.bind_eq_some_iff, Option.pure_def,
      Option.some.injEq, Prod.mk.injEq] at h
    obtain ⟨x, hx, y, hy, z, hz, w, hw, hcode, rfl⟩ := h
    have hlast : code = 0x5c → heavy d = true := by
      intro hslash
      have hw12 : w = 12 := by
        have := hexDigit_lt hw
        have := hexDigit_lt hz
        omega
      exact heavy_of_hexDigit (hw12 ▸ hw)
    simp only [weight_cons]
    by_cases hslash : code = 0x5c
    · rw [if_pos hslash, if_pos (hlast hslash)]
      omega
    · rw [if_neg hslash]
      omega
  · cases h

theorem eq_of_ofNat_eq_backslash {code : ℕ} (h : Char.ofNat code = '\\') : code = 0x5c := by
  by_cases hvalid : code.isValidChar
  · rw [Char.ofNat, dif_pos hvalid] at h
    exact congrArg Char.toNat h
  · rw [Char.ofNat, dif_neg hvalid] at h
    exact absurd h (by decide)

theorem unicode_weight {text rest : Str} {c : Char} (h : unicode text = some (c, rest)) :
    (if heavy c then 1 else 0) + (if special c then 1 else 0) + weight rest ≤ weight text + 1 := by
  simp only [unicode, Option.bind_eq_bind, Option.bind_eq_some_iff] at h
  obtain ⟨⟨code, rest₁⟩, hcode, h⟩ := h
  have hfirst := hex4_weight hcode
  dsimp only at h
  split_ifs at h with hhigh hlow
  · split at h
    · rename_i rest₂
      simp only [Option.bind_eq_some_iff] at h
      obtain ⟨⟨low, rest₃⟩, hlow, h⟩ := h
      dsimp only at h
      split_ifs at h
      simp only [Option.pure_def, Option.some.injEq, Prod.mk.injEq] at h
      obtain ⟨rfl, rfl⟩ := h
      have hsecond := hex4_weight hlow
      have hchar :=
        burden_char_le (c := Char.ofNat (0x10000 + 1024 * (code - 0xD800) + (low - 0xDC00)))
        (fun hslash => by have := eq_of_ofNat_eq_backslash hslash; omega)
      simp only [weight_cons] at hfirst
      omega
    · cases h
  · simp only [Option.pure_def, Option.some.injEq, Prod.mk.injEq] at h
    obtain ⟨rfl, rfl⟩ := h
    by_cases hslash : Char.ofNat code = '\\'
    · rw [eq_of_ofNat_eq_backslash hslash] at hfirst ⊢
      have hburden : (if heavy (Char.ofNat 0x5c) then 1 else 0) +
        (if special (Char.ofNat 0x5c) then 1 else 0) = 2 := by decide
      simp only [if_true] at hfirst
      omega
    · have hchar := burden_char_le hslash
      omega

theorem escaped_weight {e c : Char} (h : escaped e = some c) :
    (if heavy c then 1 else 0) + (if special c then 1 else 0) ≤ 1 + if heavy e then 1 else 0 := by
  by_cases hslash : c = '\\'
  · have he : e = '\\' := by
      unfold escaped at h
      split at h <;> simp_all
    rw [hslash, he]
    decide
  · have hchar := burden_char_le hslash
    omega

theorem chars_weight {n : ℕ} {text s rest : Str} (h : chars n text = some (s, rest)) :
    weight s + specials s + weight rest ≤ weight text := by
  have hslash : heavy '\\' = true := rfl
  fun_induction chars n text generalizing s rest with
  | case1 | case2 => cases h
  | case3 =>
    cases h
    simp [weight_cons]
  | case4 n text ih =>
    simp only [Option.bind_eq_bind, Option.bind_eq_some_iff] at h
    obtain ⟨⟨c, rest₁⟩, hc, ⟨s₁, rest₂⟩, hs, h⟩ := h
    cases h
    have hhead := unicode_weight hc
    have htail : weight s₁ + specials s₁ + weight rest₂ ≤ weight rest₁ := ih _ hs
    simp only [weight_cons, specials_cons, hslash, if_true]
    omega
  | case5 n e text hu ih =>
    simp only [Option.bind_eq_bind, Option.bind_eq_some_iff] at h
    obtain ⟨c, hc, ⟨s₁, rest₁⟩, hs, h⟩ := h
    cases h
    have hhead := escaped_weight hc
    have htail := ih hs
    simp only [weight_cons, specials_cons, hslash, if_true]
    omega
  | case6 => cases h
  | case7 n c text hquote hu hescape hc ih =>
    obtain ⟨⟨s₁, rest₁⟩, hs, h⟩ := Option.map_eq_some_iff.mp h
    cases h
    have htail := ih hs
    have hplain : special c = false := by
      rw [not_or, not_lt] at hc
      simp only [special, Bool.or_eq_false_iff, decide_eq_false_iff_not, not_lt]
      exact ⟨⟨fun h => hquote h, hc.2⟩, hc.1⟩
    simp only [weight_cons, specials_cons, hplain, Bool.false_eq_true, if_false]
    omega

theorem digits_suffix (text : Str) : (digits text).2 <:+ text := List.dropWhile_suffix _

theorem natural_suffix {text whole rest : Str} (h : natural text = some (whole, rest)) :
    rest <:+ text := by
  unfold natural at h
  split at h
  · cases h
    exact List.suffix_cons _ _
  · split_ifs at h
    cases h
    exact digits_suffix _

theorem fraction_suffix (text : Str) : (fraction text).2 <:+ text := by
  unfold fraction
  split
  · split_ifs
    · exact List.suffix_rfl
    · exact (digits_suffix _).trans (List.suffix_cons _ _)
  · exact List.suffix_rfl

theorem sign_suffix (text : Str) : (sign text).2 <:+ text := by
  unfold sign
  split
  · exact List.suffix_cons _ _
  · exact List.suffix_cons _ _
  · exact List.suffix_rfl

theorem exponent_suffix (text : Str) : (exponent text).2 <:+ text := by
  unfold exponent
  split
  · rename_i c rest
    dsimp only
    split_ifs
    · exact List.suffix_rfl
    · exact ((digits_suffix _).trans (sign_suffix rest)).trans (List.suffix_cons _ _)
    · exact List.suffix_rfl
  · exact List.suffix_rfl

theorem number_spec {float : Str → FloatValue} {negative : Bool} {text rest : Str} {v : Json}
    (h : number float negative text = some (v, rest)) : burden v = 0 ∧ rest <:+ text := by
  simp only [number, Option.bind_eq_bind, Option.bind_eq_some_iff] at h
  obtain ⟨⟨whole, rest₁⟩, hwhole, h⟩ := h
  have hsuffix := ((exponent_suffix (fraction rest₁).2).trans (fraction_suffix rest₁)).trans
    (natural_suffix hwhole)
  dsimp only at h
  split_ifs at h <;> cases h <;> exact ⟨rfl, hsuffix⟩

theorem word_spec {text rest : Str} {v : Json} (h : word text = some (v, rest)) :
    burden v = 0 ∧ rest <:+ text := by
  obtain ⟨w, hw, hresult⟩ := Option.map_eq_some_iff.mp h
  cases hresult
  refine ⟨?_, List.drop_suffix _ _⟩
  have hmem := List.mem_of_find?_eq_some hw
  simp only [words, List.mem_cons, List.not_mem_nil, or_false] at hmem
  rcases hmem with rfl | rfl | rfl | rfl | rfl | rfl <;> rfl

theorem scalar_spec {float : Str → FloatValue} {text rest : Str} {v : Json}
    (h : scalar float text = some (v, rest)) : burden v = 0 ∧ rest <:+ text := by
  unfold scalar at h
  split at h
  · rename_i hword
    cases h
    exact word_spec hword
  · split at h
    · obtain ⟨hburden, hsuffix⟩ := number_spec h
      exact ⟨hburden, hsuffix.trans (List.suffix_cons _ _)⟩
    · exact number_spec h

theorem burdenMembers_store (key : Str) (v : Json) (fields : Fields) :
    burdenMembers (store key v fields) ≤
      weight key + specials key + burden v + burdenMembers fields := by
  induction fields with
  | nil => simp [store, burdenMembers]
  | cons field fields ih =>
    obtain ⟨key', v'⟩ := field
    unfold store
    split_ifs with hkey
    · simp only [burdenMembers]
      omega
    · simp only [burdenMembers]
      omega

theorem burdenMembers_dict (ms : Fields) : burdenMembers (dict ms) ≤ burdenMembers ms := by
  have hfold : ∀ (ms d : Fields), burdenMembers (ms.foldl (fun d m => store m.1 m.2 d) d) ≤
      burdenMembers d + burdenMembers ms := by
    intro ms
    induction ms with
    | nil => intro d; simp [burdenMembers]
    | cons m ms ih =>
      intro d
      have hstep := burdenMembers_store m.1 m.2 d
      have htail := ih (store m.1 m.2 d)
      simp only [List.foldl_cons, burdenMembers]
      omega
  have h := hfold ms []
  simpa [burdenMembers, dict] using h

section Burden
variable (float : Str → FloatValue)

private def Bounded (n : ℕ) : Prop :=
  (∀ text v rest, value float n text = some (v, rest) → burden v + weight rest ≤ weight text) ∧
  (∀ text vs rest, items float n text = some (vs, rest) →
    burdenItems vs + weight rest ≤ weight text) ∧
  (∀ text ms rest, members float n text = some (ms, rest) →
    burdenMembers ms + weight rest ≤ weight text)

private theorem weight_tail_le (c : Char) (rest : Str) : weight rest ≤ weight (c :: rest) :=
  weight_le_of_suffix (List.suffix_cons c rest)

private theorem weight_of_skip_eq {text rest : Str} {c : Char} (h : skip text = c :: rest) :
    weight rest ≤ weight text := by
  have hskip := weight_skip text
  rw [h] at hskip
  exact (weight_tail_le c rest).trans hskip

private theorem bounded_value {n : ℕ} (ih : Bounded float n) {text rest : Str} {v : Json}
    (h : value float (n + 1) text = some (v, rest)) : burden v + weight rest ≤ weight text := by
  obtain ⟨-, hitems, hmembers⟩ := ih
  rw [value.eq_def] at h
  dsimp only at h
  split at h
  · rename_i tail
    obtain ⟨⟨s, rest₁⟩, hs, h⟩ := Option.map_eq_some_iff.mp h
    cases h
    have hbound := chars_weight hs
    have htail := weight_tail_le '"' tail
    simp only [burden]
    omega
  · rename_i tail
    have htail := weight_tail_le '{' tail
    split at h
    · rename_i rest₁ hskip
      cases h
      have hrest := weight_of_skip_eq hskip
      simp only [burden, burdenMembers]
      omega
    · obtain ⟨⟨ms, rest₁⟩, hms, h⟩ := Option.map_eq_some_iff.mp h
      cases h
      have hbound := hmembers _ _ _ hms
      have hdict := burdenMembers_dict ms
      have hskip := weight_skip tail
      simp only [burden]
      omega
  · rename_i tail
    have htail := weight_tail_le '[' tail
    split at h
    · rename_i rest₁ hskip
      cases h
      have hrest := weight_of_skip_eq hskip
      simp only [burden, burdenItems]
      omega
    · obtain ⟨⟨vs, rest₁⟩, hvs, h⟩ := Option.map_eq_some_iff.mp h
      cases h
      have hbound := hitems _ _ _ hvs
      have hskip := weight_skip tail
      simp only [burden]
      omega
  · obtain ⟨hburden, hsuffix⟩ := scalar_spec h
    have hrest := weight_le_of_suffix hsuffix
    omega

private theorem bounded_items {n : ℕ} (ih : Bounded float n) {text rest : Str} {vs : List Json}
    (h : items float (n + 1) text = some (vs, rest)) : burdenItems vs + weight rest ≤
      weight text := by
  obtain ⟨hvalue, hitems, -⟩ := ih
  rw [items] at h
  obtain ⟨⟨v, rest₁⟩, hv, h⟩ := Option.bind_eq_some_iff.mp h
  have hhead := hvalue _ _ _ hv
  dsimp only at h
  split at h
  · rename_i tail hskip
    cases h
    have htail := weight_of_skip_eq hskip
    simp only [burdenItems]
    omega
  · rename_i tail hskip
    obtain ⟨⟨vs', rest₂⟩, hvs, h⟩ := Option.map_eq_some_iff.mp h
    cases h
    have htail := weight_of_skip_eq hskip
    have hbound := hitems _ _ _ hvs
    have hblank := weight_skip tail
    simp only [burdenItems]
    omega
  · cases h

private theorem bounded_members {n : ℕ} (ih : Bounded float n) {text rest : Str} {ms : Fields}
    (h : members float (n + 1) text = some (ms, rest)) :
    burdenMembers ms + weight rest ≤ weight text := by
  obtain ⟨hvalue, -, hmembers⟩ := ih
  rw [members.eq_def] at h
  dsimp only at h
  split at h
  · rename_i quoted
    obtain ⟨⟨key, rest₁⟩, hkey, h⟩ := Option.bind_eq_some_iff.mp h
    have hkey := chars_weight hkey
    have hquote := weight_tail_le '"' quoted
    dsimp only at h
    split at h
    · rename_i tail hcolon
      have hcolon := weight_of_skip_eq hcolon
      have hblank := weight_skip tail
      obtain ⟨⟨v, rest₂⟩, hv, h⟩ := Option.bind_eq_some_iff.mp h
      have hhead := hvalue _ _ _ hv
      dsimp only at h
      split at h
      · rename_i tail₁ hskip
        cases h
        have htail := weight_of_skip_eq hskip
        simp only [burdenMembers]
        omega
      · rename_i tail₁ hskip
        obtain ⟨⟨ms', rest₃⟩, hms, h⟩ := Option.map_eq_some_iff.mp h
        cases h
        have htail := weight_of_skip_eq hskip
        have hbound := hmembers _ _ _ hms
        have hblank' := weight_skip tail₁
        simp only [burdenMembers]
        omega
      · cases h
    · cases h
  · cases h

private theorem bounded (n : ℕ) : Bounded float n := by
  induction n with
  | zero =>
    refine ⟨fun _ _ _ h => ?_, fun _ _ _ h => ?_, fun _ _ _ h => ?_⟩
    · cases h
    · cases h
    · cases h
  | succ n ih =>
    exact ⟨fun _ _ _ h => bounded_value float ih h, fun _ _ _ h => bounded_items float ih h,
      fun _ _ _ h => bounded_members float ih h⟩

/-- Whatever text a value is decoded from, it is as heavy as the value with its escapes. -/
theorem burden_le_weight {text : Str} {v : Json} (h : loads float text = some v) :
    burden v ≤ weight text := by
  simp only [loads, Option.bind_eq_bind, Option.bind_eq_some_iff] at h
  obtain ⟨⟨v', rest⟩, hv, h⟩ := h
  dsimp only at h
  split_ifs at h
  cases h
  have hbound := (bounded float _).1 _ _ _ hv
  have hskip := weight_skip text
  omega

end Burden

end Astro.JsonText
