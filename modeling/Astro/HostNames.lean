import Astro.RelativePaths
import Astro.RequestModels

/-!
# Host names and addresses

The characters of RFC 1123 host names and of IP addresses. What the handlers, templates and
command lines cut at occurs in none of them.
-/

namespace Astro.HostNames

open PythonText RequestModels

theorem mem_split {sep c : Char} {text : Str} (h : c ∈ text) :
    c = sep ∨ ∃ piece ∈ split sep text, c ∈ piece := by
  by_cases hsep : sep ∈ text
  · obtain ⟨front, back, htext, hfront⟩ := List.eq_append_cons_of_mem hsep
    have hsplit : split sep text = front :: split sep back := by
      rw [htext, split, List.splitOn_append_cons_self, List.splitOn_eq_singleton hfront]
      rfl
    rw [htext, List.mem_append, List.mem_cons] at h
    rw [hsplit]
    rcases h with h | h | h
    · exact Or.inr ⟨front, List.mem_cons_self, h⟩
    · exact Or.inl h
    · rcases mem_split h with h | ⟨piece, hpiece, h⟩
      · exact Or.inl h
      · exact Or.inr ⟨piece, List.mem_cons_of_mem _ hpiece, h⟩
  · refine Or.inr ⟨text, ?_, h⟩
    rw [split, List.splitOn_eq_singleton hsep]
    exact List.mem_singleton_self text
termination_by text.length
decreasing_by
  rw [htext, List.length_append, List.length_cons]
  omega

/-- Letters, digits and inner hyphens. -/
def IsLabel (label : Str) : Prop :=
  label ≠ [] ∧ (∀ c ∈ label, c.isAlphanum = true ∨ c = '-') ∧
    label.head? ≠ some '-' ∧ label.getLast? ≠ some '-'

/-- Labels between dots, of any length. -/
def IsHostName (name : Str) : Prop := ∀ label ∈ split '.' name, IsLabel label

instance (label : Str) : Decidable (IsLabel label) :=
  have : Decidable (∀ c ∈ label, c.isAlphanum = true ∨ c = '-') := List.decidableBAll _ _
  inferInstanceAs (Decidable (_ ∧ _ ∧ _ ∧ _))

instance (name : Str) : Decidable (IsHostName name) := List.decidableBAll _ _

def isHostChar (c : Char) : Bool := c.isAlphanum || c = '-' || c = '.'

theorem IsHostName.isHostChar {name : Str} (h : IsHostName name) {c : Char} (hc : c ∈ name) :
    isHostChar c = true := by
  rcases @mem_split '.' c name hc with rfl | ⟨label, hlabel, hc⟩
  · rfl
  · rcases (h label hlabel).2.1 c hc with hc | rfl
    · rw [HostNames.isHostChar, hc]
      rfl
    · rfl

theorem IsHostName.not_mem {name : Str} (h : IsHostName name) {c : Char}
    (hc : HostNames.isHostChar c = false) : c ∉ name := by
  intro hmem
  rw [h.isHostChar hmem] at hc
  cases hc

theorem IsHostName.ne {name : Str} (h : IsHostName name) : name ≠ [] ∧ name ≠ "." ∧
    name ≠ ".." := by
  refine ⟨?_, ?_, ?_⟩ <;>
  · rintro rfl
    exact absurd (h [] (by decide)).1 (by decide)

def isHexDigit (c : Char) : Bool := c.isDigit || ('a' ≤ c && c ≤ 'f') || ('A' ≤ c && c ≤ 'F')

def isAddressChar (c : Char) : Bool := isHexDigit c || c = ':' || c = '.'

theorem ipv4_chars {text : Str} (h : isIpv4Address text = true) {c : Char} (hc : c ∈ text) :
    c.isDigit = true ∨ c = '.' := by
  rcases @mem_split '.' c text hc with rfl | ⟨piece, hpiece, hc⟩
  · exact Or.inr rfl
  · simp only [isIpv4Address, decide_eq_true_eq] at h
    have hoctet := List.all_eq_true.mp h.2 piece hpiece
    simp only [isOctet, decide_eq_true_eq] at hoctet
    exact Or.inl (List.all_eq_true.mp hoctet.2.1 c hc)

theorem ipv4_isAddressChar {text : Str} (h : isIpv4Address text = true) {c : Char} (hc : c ∈ text) :
    isAddressChar c = true := by
  rcases ipv4_chars h hc with hc | rfl
  · rw [isAddressChar, isHexDigit, hc]
    rfl
  · rfl

example : isIpv4Address "10.1.10.142" = true ∧ isIpv4Address "10.1.10.0142" = false ∧
    isIpv4Address "256.0.0.1" = false := by decide

theorem ipv4_ne_nil {text : Str} (h : isIpv4Address text = true) : text ≠ [] := by
  rintro rfl
  exact absurd h (by decide)

/-- Every part is empty or a hextet; the one that `::` leaves out is empty. -/
theorem isHextet_of_groups {parts : List Str} (h : areIpv6Groups parts = true) {part : Str}
    (hpart : part ∈ parts) : part = [] ∨ isHextet part = true := by
  have hcompressed : ∀ {half : List Str}, (if half = [[]] then [] else half).all isHextet = true →
      ∀ part ∈ half, part = [] ∨ isHextet part = true := by
    intro half hall part hpart
    split_ifs at hall with hhalf
    · rw [hhalf] at hpart
      exact Or.inl (List.mem_singleton.mp hpart)
    · exact Or.inr (List.all_eq_true.mp hall part hpart)
  unfold areIpv6Groups at h
  dsimp only at h
  split_ifs at h with hinner
  · simp only [decide_eq_true_eq, isCompressed] at h
    obtain ⟨-, -, hhigh, hlow, -⟩ := h
    generalize hskip : 1 + ((parts.drop 1).dropLast).findIdx (fun x => decide (x = [])) =
      skip at hhigh hlow
    rw [← List.take_append_drop skip parts, List.mem_append] at hpart
    rcases hpart with hpart | hpart
    · exact hcompressed hhigh part hpart
    · obtain ⟨n, hn, hget⟩ := List.getElem_of_mem hpart
      cases n with
      | zero =>
        have hlt := List.findIdx_lt_length_of_exists (p := fun x => decide (x = ([] : Str)))
          ⟨[], hinner, decide_eq_true rfl⟩
        have hfound := List.findIdx_getElem (w := hlt)
        simp only [List.getElem_dropLast, List.getElem_drop, decide_eq_true_eq] at hfound
        left
        simp only [List.getElem_drop, Nat.add_zero] at hget
        rw [← hget, ← hfound]
        congr 1
        omega
      | succ n =>
        refine hcompressed hlow part ?_
        rw [List.mem_iff_getElem]
        refine ⟨n, ?_, ?_⟩
        · rw [List.length_drop] at hn ⊢
          omega
        · rw [← hget]
          simp only [List.getElem_drop]
          congr 1
          omega
  · simp only [decide_eq_true_eq] at h
    exact Or.inr (List.all_eq_true.mp h.2 part hpart)

theorem ipv6_isAddressChar {text : Str} (h : isIpv6Address text = true)
    (hscope : '%' ∉ text) {c : Char} (hc : c ∈ text) : isAddressChar c = true := by
  have hany : (ipv6Parts text).any areIpv6Groups = true := by
    rw [isIpv6Address, split, List.splitOn_eq_singleton hscope] at h
    exact (Bool.and_eq_true_iff.mp h).2
  have hhextet : ∀ part : Str, part = [] ∨ isHextet part = true → c ∈ part →
      isAddressChar c = true := by
    rintro part (rfl | hpart) hc
    · cases hc
    · simp only [isHextet, decide_eq_true_eq] at hpart
      have hdigit : isHexDigit c = true := List.all_eq_true.mp hpart.2.2 c hc
      rw [isAddressChar, hdigit]
      rfl
  rcases @mem_split ':' c text hc with rfl | ⟨part, hpart, hc⟩
  · rfl
  unfold ipv6Parts at hany
  dsimp only at hany
  split_ifs at hany with hlength hdot hipv4
  · cases hany
  · have hparts : split ':' text ≠ [] := List.ne_nil_of_mem hpart
    rw [← List.dropLast_append_getLast hparts, List.mem_append, List.mem_singleton] at hpart
    rcases hpart with hpart | rfl
    · exact hhextet part (isHextet_of_groups hany (List.mem_append_left _ hpart)) hc
    · rw [List.getLastD_eq_getLast?, List.getLast?_eq_some_getLast hparts] at hipv4
      exact ipv4_isAddressChar hipv4 hc
  · cases hany
  · exact hhextet part (isHextet_of_groups hany hpart) hc

theorem ipv6_ne_nil {text : Str} (h : isIpv6Address text = true) : text ≠ [] := by
  rintro rfl
  exact absurd h (by decide)

theorem colon_mem_of_ipv6Parts {address : Str} (h : (ipv6Parts address).any areIpv6Groups = true) :
    ':' ∈ address := by
  by_contra hcolon
  have hsplit : split ':' address = [address] := List.splitOn_eq_singleton hcolon
  rw [ipv6Parts, hsplit] at h
  cases h

theorem colon_mem_of_isIpv6Address {text : Str} (h : isIpv6Address text = true) : ':' ∈ text := by
  have hjoin : ['%'].intercalate (split '%' text) = text := List.intercalate_splitOn '%'
  unfold isIpv6Address at h
  rw [Bool.and_eq_true] at h
  replace h := h.2
  split at h
  · rename_i address hsplit
    rw [hsplit] at hjoin
    have htext : text = address := by rw [← hjoin]; simp
    rw [htext]
    exact colon_mem_of_ipv6Parts h
  · rename_i address scope hsplit
    rw [hsplit] at hjoin
    have htext : text = address ++ '%' :: scope := by rw [← hjoin]; simp
    rw [Bool.and_eq_true] at h
    rw [htext]
    exact List.mem_append_left _ (colon_mem_of_ipv6Parts h.2)
  · cases h

example : isIpv6Address "2001:4860:4860::8888" = true ∧ isIpv6Address "::" = true ∧
    isIpv6Address "::ffff:10.0.0.1" = true ∧ isIpv6Address "1::2::3" = false ∧
    isIpv6Address ":1::2" = false := by decide

/-- An IPv4 address, or an IPv6 address without a zone. -/
def IsIpAddress (text : Str) : Prop :=
  isIpv4Address text = true ∨ isIpv6Address text = true ∧ '%' ∉ text

instance (text : Str) : Decidable (IsIpAddress text) := inferInstanceAs (Decidable (_ ∨ _ ∧ _))

theorem IsIpAddress.isAddressChar {text : Str} (h : IsIpAddress text) {c : Char} (hc : c ∈ text) :
    isAddressChar c = true := by
  rcases h with h | ⟨h, hscope⟩
  · exact ipv4_isAddressChar h hc
  · exact ipv6_isAddressChar h hscope hc

theorem IsIpAddress.ne_nil {text : Str} (h : IsIpAddress text) : text ≠ [] := by
  rcases h with h | ⟨h, -⟩
  · exact ipv4_ne_nil h
  · exact ipv6_ne_nil h

/-- Letters and digits lie between `0` and `z`. -/
theorem toNat_of_isAlphanum {c : Char} (h : c.isAlphanum = true) :
    48 ≤ c.toNat ∧ c.toNat ≤ 122 := by
  have hrange : ∀ {low high : UInt32}, 48 ≤ low.toNat → high.toNat ≤ 122 →
      low ≤ c.val → c.val ≤ high → 48 ≤ c.toNat ∧ c.toNat ≤ 122 :=
    fun hlow hhigh hc hc' => ⟨Nat.le_trans hlow (UInt32.le_iff_toNat_le.mp hc),
      Nat.le_trans (UInt32.le_iff_toNat_le.mp hc') hhigh⟩
  rcases (Bool.or_eq_true _ _).mp h with halpha | hdigit
  · rcases (Bool.or_eq_true _ _).mp halpha with hupper | hlower
    · obtain ⟨hlow, hhigh⟩ : 'A'.val ≤ c.val ∧ c.val ≤ 'Z'.val := of_decide_eq_true hupper
      exact hrange (by decide) (by decide) hlow hhigh
    · obtain ⟨hlow, hhigh⟩ := (Bool.and_eq_true _ _).mp hlower
      exact hrange (by decide : 48 ≤ 'a'.val.toNat) (by decide : 'z'.val.toNat ≤ 122)
        (of_decide_eq_true hlow) (of_decide_eq_true hhigh)
  · obtain ⟨hlow, hhigh⟩ := (Bool.and_eq_true _ _).mp hdigit
    exact hrange (by decide : 48 ≤ '0'.val.toNat) (by decide : '9'.val.toNat ≤ 122)
      (of_decide_eq_true hlow) (of_decide_eq_true hhigh)

theorem isAlphanum_of_isHexDigit {c : Char} (h : isHexDigit c = true) : c.isAlphanum = true := by
  have hletter : c.isUpper = true ∨ c.isLower = true → c.isAlpha = true := (Bool.or_eq_true _ _).mpr
  have halphanum : c.isAlpha = true ∨ c.isDigit = true → c.isAlphanum = true :=
    (Bool.or_eq_true _ _).mpr
  simp only [isHexDigit, Bool.or_eq_true, Bool.and_eq_true, decide_eq_true_eq, Char.le_def] at h
  rcases h with (hdigit | ⟨hlow, hhigh⟩) | ⟨hlow, hhigh⟩
  · exact halphanum (Or.inr hdigit)
  · have hz : c.val ≤ 'z'.val := UInt32.le_trans hhigh (by decide)
    have hlower : c.isLower = true :=
      (Bool.and_eq_true _ _).mpr ⟨decide_eq_true hlow, decide_eq_true hz⟩
    exact halphanum (Or.inl (hletter (Or.inr hlower)))
  · have hz : c.val ≤ 'Z'.val := UInt32.le_trans hhigh (by decide)
    have hupper : c.isUpper = true := decide_eq_true ⟨hlow, hz⟩
    exact halphanum (Or.inl (hletter (Or.inl hupper)))

theorem dropWhile_of_no_blank {text : Str} (h : ∀ c ∈ text, isPythonSpace c = false)
    (hne : text ≠ []) (rest : Str) : (text ++ rest).dropWhile isPythonSpace = text ++ rest := by
  obtain ⟨c, text, rfl⟩ := List.exists_cons_of_ne_nil hne
  have hc : ¬ isPythonSpace c = true := by
    rw [h c List.mem_cons_self]
    exact Bool.false_ne_true
  exact List.dropWhile_cons_of_neg hc

/-- Blanks on both sides of a text without blanks are removed. -/
theorem stripBlanks_append {left text right : Str} (hleft : ∀ c ∈ left, isPythonSpace c = true)
    (htext : ∀ c ∈ text, isPythonSpace c = false) (hright : ∀ c ∈ right, isPythonSpace c = true) :
    stripBlanks (left ++ text ++ right) = text := by
  have hreversed : ∀ c ∈ right.reverse, isPythonSpace c = true :=
    fun c hc => hright c (List.mem_reverse.mp hc)
  by_cases hnil : text = []
  · have hall : ∀ c ∈ left ++ right, isPythonSpace c = true :=
      List.forall_mem_append.mpr ⟨hleft, hright⟩
    have hdrop := @List.dropWhile_append_of_pos _ isPythonSpace (left ++ right) [] hall
    rw [List.append_nil] at hdrop
    rw [hnil, List.append_nil, stripBlanks, hdrop]
    rfl
  · have hback := @dropWhile_of_no_blank text.reverse (fun c hc => htext c (List.mem_reverse.mp hc))
      (mt List.reverse_eq_nil_iff.mp hnil) []
    rw [List.append_nil] at hback
    rw [stripBlanks, List.append_assoc, List.dropWhile_append_of_pos hleft,
      dropWhile_of_no_blank htext hnil, List.reverse_append,
        List.dropWhile_append_of_pos hreversed, hback,
      List.reverse_reverse]

theorem stripBlanks_of_no_blank {text : Str} (h : ∀ c ∈ text, isPythonSpace c = false) :
    stripBlanks text = text := by
  have hstrip := @stripBlanks_append [] text [] (by simp) h (by simp)
  rwa [List.nil_append, List.append_nil] at hstrip

theorem toNat_of_isAddressChar {c : Char} (h : isAddressChar c = true) :
    46 ≤ c.toNat ∧ c.toNat ≤ 102 := by
  have hval : c.toNat = c.val.toNat := rfl
  simp only [isAddressChar, isHexDigit, Char.isDigit, Bool.or_eq_true, Bool.and_eq_true,
    decide_eq_true_eq, Char.le_def, ge_iff_le, UInt32.le_iff_toNat_le] at h
  rcases h with (((⟨hlow, hhigh⟩ | ⟨hlow, hhigh⟩) | ⟨hlow, hhigh⟩) | rfl) | rfl
  · exact ⟨hval ▸ le_trans (by decide) hlow, hval ▸ le_trans hhigh (by decide)⟩
  · exact ⟨hval ▸ le_trans (by decide) hlow, hval ▸ le_trans hhigh (by decide)⟩
  · exact ⟨hval ▸ le_trans (by decide) hlow, hval ▸ le_trans hhigh (by decide)⟩
  · decide
  · decide

theorem isPythonSpace_of_isAddressChar {c : Char} (h : isAddressChar c = true) :
    isPythonSpace c = false := by
  have hbounds := toNat_of_isAddressChar h
  refine decide_eq_false fun hspace => ?_
  simp only [List.mem_cons, List.not_mem_nil, or_false] at hspace
  omega

end Astro.HostNames
