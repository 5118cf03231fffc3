import AuthGateway.Proofs.Text
import AuthGateway.Url.Host

/-!
Hosts as texts. A host that was read is written without anything that delimits the
parts of a URL, and with brackets and colons only if it is an address in brackets.
-/
namespace AuthGateway

namespace Url

theorem Domain.not_forbidden_of_ascii? {cs name : List Char} (h : ascii? cs = some name) :
    ∀ c ∈ name, isForbidden c = false := by
  simp only [ascii?, Option.bind_eq_bind, Option.bind_eq_some_iff, Option.ite_none_right_eq_some,
    Bool.and_eq_true] at h
  obtain ⟨mapped, -, labels, -, ⟨-, hname⟩, h⟩ := h
  rw [← Option.some.inj h]
  simpa using hname

namespace Host

/-- A text that stands for a host between the delimiters of a URL. Only an address
in brackets has colons. -/
structure IsHostText (cs : List Char) : Prop where
  nonempty : cs ≠ []
  visible : ∀ c ∈ cs, 0x20 < c.toNat ∧ c ∉ "/\\?#@".toList
  closed : (∀ c ∈ cs, c ∉ ":[]".toList) ∨
    ∃ inside, cs = '[' :: (inside ++ [']']) ∧ ∀ c ∈ inside, c ∉ "[]".toList

theorem IsHostText.of_plain {cs : List Char} (hne : cs ≠ [])
    (h : ∀ c ∈ cs, 0x20 < c.toNat ∧ c ∉ "/\\?#@:[]".toList) : IsHostText cs := by
  refine ⟨hne, fun c hc => ⟨(h c hc).1, ?_⟩, .inl fun c hc => ?_⟩
  · intro hm
    exact (h c hc).2 (List.mem_append_left ":[]".toList hm)
  · intro hm
    exact (h c hc).2 (List.mem_append_right "/\\?#@".toList hm)

theorem isHostText_of_not_forbidden {name : List Char} (hne : name ≠ [])
    (h : ∀ c ∈ name, Domain.isForbidden c = false) : IsHostText name := by
  refine .of_plain hne fun c hc => ?_
  have hc := h c hc
  simp only [Domain.isForbidden, Bool.or_eq_false_iff, decide_eq_false_iff_not,
    List.contains_eq_mem] at hc
  refine ⟨by omega, fun hm => hc.2 ?_⟩
  revert hm
  simp
  grind

def IsDigitCode (n : Nat) : Prop :=
  48 ≤ n ∧ n ≤ 57 ∨ 97 ≤ n ∧ n ≤ 102

instance (n : Nat) : Decidable (IsDigitCode n) :=
  inferInstanceAs (Decidable (_ ∨ _))

theorem plain_of_isDigitCode {c : Char} (h : IsDigitCode c.toNat) :
    0x20 < c.toNat ∧ c ∉ "/\\?#@:[]".toList := by
  have hall : ∀ d ∈ "/\\?#@:[]".toList, ¬ IsDigitCode d.toNat := by
    simp [IsDigitCode]
  refine ⟨?_, fun hm => hall c hm h⟩
  unfold IsDigitCode at h
  omega

theorem isHostText_ipv4 (address : UInt32) : IsHostText (Ipv4.chars address) := by
  refine .of_plain (by simp [Ipv4.chars]) fun c hc => ?_
  simp only [Ipv4.chars, List.mem_append, List.mem_cons] at hc
  have hcase : c = '.' ∨ ∃ n, c ∈ Decimal.natChars n := by
    grind
  rcases hcase with rfl | ⟨n, hn⟩
  · decide
  · exact plain_of_isDigitCode (.inl (Decimal.toNat_of_mem_natChars hn))

theorem isDigitCode_of_mem_groupChars {n : Nat} {c : Char} (h : c ∈ Ipv6.groupChars n) :
    IsDigitCode c.toNat := by
  have hdigit : ∀ d < 16, IsDigitCode (Nat.digitChar d).toNat := by
    decide
  induction n using Nat.strongRecOn with
  | ind n ih =>
      rw [Ipv6.groupChars, Nat.toDigits_eq_if (by decide)] at h
      split at h
      · next hlt =>
          rw [List.mem_singleton.1 h]
          exact hdigit n hlt
      · next hlt =>
          rcases List.mem_append.1 h with hfront | hlast
          · exact ih (n / 16) (by omega) hfront
          · rw [List.mem_singleton.1 hlast]
            exact hdigit (n % 16) (by omega)

theorem digit_or_colon_of_mem_joined {groups : List Nat} {c : Char} (h : c ∈ Ipv6.joined groups) :
    IsDigitCode c.toNat ∨ c = ':' := by
  rcases Split.mem_join h with hsep | ⟨p, hp, hc⟩
  · exact .inr (List.mem_singleton.1 hsep)
  · obtain ⟨n, -, rfl⟩ := List.mem_map.1 hp
    exact .inl (isDigitCode_of_mem_groupChars hc)

theorem digit_or_colon_of_mem_chars {groups : List Nat} {c : Char} (h : c ∈ Ipv6.chars groups) :
    IsDigitCode c.toNat ∨ c = ':' := by
  unfold Ipv6.chars at h
  dsimp only at h
  split at h
  · exact digit_or_colon_of_mem_joined h
  · rcases List.mem_append.1 h with hleft | hright
    · exact digit_or_colon_of_mem_joined hleft
    · rcases List.mem_cons.1 hright with rfl | hright
      · exact .inr rfl
      · rcases List.mem_cons.1 hright with rfl | hright
        · exact .inr rfl
        · exact digit_or_colon_of_mem_joined hright

/-- An address in brackets can stand for a host. -/
theorem isHostText_ipv6 (groups : List Nat) : IsHostText ('[' :: (Ipv6.chars groups ++ [']'])) := by
  refine ⟨List.cons_ne_nil _ _, fun c hc => ?_, .inr ⟨_, rfl, fun c hc => ?_⟩⟩
  · have hcase : c = '[' ∨ c = ']' ∨ c = ':' ∨ IsDigitCode c.toNat := by
      rcases List.mem_cons.1 hc with rfl | hc
      · exact .inl rfl
      · rcases List.mem_append.1 hc with hc | hc
        · exact .inr (.inr (digit_or_colon_of_mem_chars hc).symm)
        · exact .inr (.inl (List.mem_singleton.1 hc))
    rcases hcase with rfl | rfl | rfl | hdigit
    · decide
    · decide
    · decide
    · have hplain := plain_of_isDigitCode hdigit
      exact ⟨hplain.1, fun hm => hplain.2 (List.mem_append_left ":[]".toList hm)⟩
  · rcases digit_or_colon_of_mem_chars hc with hdigit | rfl
    · exact fun hm => (plain_of_isDigitCode hdigit).2 (List.mem_append_right "/\\?#@:".toList hm)
    · decide

/-- A host that was read is an address, or else a domain that does not end in a number. -/
theorem special_cases {cs : List Char} {host : Host} (h : special cs = .ok host) :
    (∃ inside groups, host = .ipv6 groups ∧ Ipv6.ofChars? inside = some groups) ∨
      (∃ address, host = .ipv4 address) ∨
      ∃ ds name, host = .domain name ∧ Domain.ascii? ds = some name ∧ name ≠ [] ∧
        Ipv4.endsInNumber name = false := by
  -- brackets are looked for first, and the last label decides between address and domain
  unfold special at h
  split at h
  · next inside =>
      unfold bracketed at h
      split at h
      · split at h
        · next groups hgroups =>
            cases h
            exact .inl ⟨_, groups, rfl, hgroups⟩
        · cases h
      · cases h
  · split at h
    · cases h
    · cases h
    · next name hne hfound =>
        obtain ⟨ds, -, hascii⟩ := Option.bind_eq_some_iff.1 hfound
        split at h
        · split at h
          · next address _ =>
              cases h
              exact .inr (.inl ⟨address, rfl⟩)
          · cases h
        · next hnumber =>
            cases h
            exact .inr (.inr ⟨ds, name, rfl, hascii, hne, by simpa using hnumber⟩)

/-- A host that was read is written as a host text. -/
theorem isHostText_chars {cs : List Char} {host : Host} (h : special cs = .ok host) :
    IsHostText host.chars := by
  rcases special_cases h with ⟨-, groups, rfl, -⟩ | ⟨address, rfl⟩ | ⟨ds, name, rfl, hascii, hne, -⟩
  · exact isHostText_ipv6 groups
  · exact isHostText_ipv4 address
  · exact isHostText_of_not_forbidden hne (Domain.not_forbidden_of_ascii? hascii)

end Host

end Url

end AuthGateway
