/-
Addresses of commits.

The address of a commit is made of a repository and of a hash.  If both are spelled as they should
be, no character of the address can be refused, and it has neither a query nor a fragment: it is
refused for its length alone.

Main statements:
* `Target.IsPlain` — a character of a path that is never refused;
* `Target.of_error_of_plain` — an address of such characters is refused for its length;
* `Target.of_eq_error_of_length` — an address that is too long is refused;
* `GitHubClient.of_address_error` — the address of a commit.
-/
import Mathlib.Data.List.TakeWhile
import ReleaseNotes.GitHub.Client
import ReleaseNotes.Release.Basic

namespace ReleaseNotes

namespace Target

/-- A character that prints and ends no path. -/
def IsPlain (c : Char) : Prop := 0x20 ≤ c.toNat ∧ c.toNat ≠ 0x7F ∧ c ≠ '?' ∧ c ≠ '#'

theorem isPlain_of_isAlphanum {c : Char} (h : c.isAlphanum = true) : IsPlain c := by
  have hrange : (0x30 ≤ c.toNat ∧ c.toNat ≤ 0x39) ∨ (0x41 ≤ c.toNat ∧ c.toNat ≤ 0x5A) ∨
      (0x61 ≤ c.toNat ∧ c.toNat ≤ 0x7A) := by
    have hkind : ((c.isUpper || c.isLower) || c.isDigit) = true := h
    rcases Bool.or_eq_true_iff.1 hkind with hletter | hdigit
    · rcases Bool.or_eq_true_iff.1 hletter with hupper | hlower
      · exact .inr (.inl (of_decide_eq_true hupper))
      · obtain ⟨hfirst, hlast⟩ := Bool.and_eq_true_iff.1 hlower
        exact .inr (.inr ⟨of_decide_eq_true hfirst, of_decide_eq_true hlast⟩)
    · exact .inl (Char.isDigit_iff_toNat.1 hdigit)
  refine ⟨by omega, by omega, ?_, ?_⟩
  · rintro rfl
    simp at hrange
  · rintro rfl
    simp at hrange

theorem isPlain_of_isWordCharacter {c : Char} (h : isWordCharacter c = true) : IsPlain c := by
  unfold isWordCharacter at h
  split at h
  · next hword =>
    rcases hword with halnum | rfl
    · exact isPlain_of_isAlphanum halnum
    · exact ⟨by decide, by decide, by decide, by decide⟩
  · split at h
    · cases h
    · next hascii =>
      -- neither of the two marks is beyond ASCII
      have hge : 0x80 ≤ c.toNat := by omega
      refine ⟨by omega, by omega, ?_, ?_⟩
      · rintro rfl
        exact absurd hge (by decide)
      · rintro rfl
        exact absurd hge (by decide)

theorem takeWhile_of_plain {cs : List Char} (h : ∀ c ∈ cs, IsPlain c) :
    cs.takeWhile (· != '#') = cs ∧ cs.takeWhile (· != '?') = cs ∧
      cs.dropWhile (· != '?') = [] := by
  have hhash : ∀ c ∈ cs, (c != '#') = true := fun c hc => by simpa using (h c hc).2.2.2
  have hquestion : ∀ c ∈ cs, (c != '?') = true := fun c hc => by simpa using (h c hc).2.2.1
  exact ⟨List.takeWhile_eq_self_iff.2 hhash, List.takeWhile_eq_self_iff.2 hquestion,
    List.dropWhile_eq_nil_iff.2 hquestion⟩

theorem filterMap_char? (cs : List Char) : (Text.ofChars cs).filterMap TextUnit.char? = cs := by
  rw [Text.ofChars, List.filterMap_map]
  exact List.filterMap_some

/-- An address of plain characters is refused for its length alone, or for that of its path. -/
theorem of_error_of_plain {cs : List Char} (h : ∀ c ∈ cs, IsPlain c) {p : AddressProblem}
    (hp : of (Text.ofChars cs) = .error p) : p = .tooLong ∨ p = .partTooLong "path" := by
  obtain ⟨hhash, hpath, hquery⟩ := takeWhile_of_plain h
  have hprints : (Text.ofChars cs).find? (fun u => u.passes isUnprintable) = none := by
    rw [List.find?_eq_none]
    intro u hu
    obtain ⟨c, hc, rfl⟩ := List.mem_map.1 hu
    obtain ⟨hlow, hdelete, -⟩ := h c hc
    simp only [TextUnit.passes, isUnprintable, Bool.or_eq_true, decide_eq_true_eq, beq_iff_eq]
    omega
  have hencodes : (Text.ofChars cs).find? (fun u => u.char?.isNone) = none := by
    rw [List.find?_eq_none]
    intro u hu
    obtain ⟨c, -, rfl⟩ := List.mem_map.1 hu
    simp [TextUnit.char?]
  by_cases hlength : maxLength < (Text.ofChars cs).length
  · have hproblem : problem? (Text.ofChars cs) = some .tooLong := by rw [problem?, if_pos hlength]
    rw [of, hproblem] at hp
    cases hp
    exact .inl rfl
  · have hproblem : problem? (Text.ofChars cs) = none := by
      rw [problem?, if_neg hlength, hprints, Option.bind_none, hencodes, Option.map_none]
    have hsplit : split cs = (cs, none) := by simp only [split, hhash, hpath, hquery]
    simp only [of, hproblem, filterMap_char?, hsplit] at hp
    split at hp
    · cases hp
      exact .inr rfl
    · simp at hp

theorem of_eq_error_of_length {t : Text} (h : maxLength < t.length) : of t = .error .tooLong := by
  have hproblem : problem? t = some .tooLong := by rw [problem?, if_pos h]
  rw [of, hproblem]

end Target

/-- Whether a character is a hexadecimal digit. -/
def isHexDigit (c : Char) : Bool :=
  c.isDigit || ('a' ≤ c && c ≤ 'f') || ('A' ≤ c && c ≤ 'F')

theorem isAlphanum_of_isHexDigit {c : Char} (h : isHexDigit c = true) : c.isAlphanum = true := by
  simp only [isHexDigit, Bool.or_eq_true, Bool.and_eq_true, decide_eq_true_eq] at h
  show ((c.isUpper || c.isLower) || c.isDigit) = true
  rw [Bool.or_eq_true_iff, Bool.or_eq_true_iff]
  rcases h with (hdigit | ⟨hfirst, hlast⟩) | ⟨hfirst, hlast⟩
  · exact .inr hdigit
  · have hbound : c.val ≤ 'z'.val := UInt32.le_trans hlast (by decide)
    exact .inl (.inr (Bool.and_eq_true_iff.2 ⟨decide_eq_true hfirst, decide_eq_true hbound⟩))
  · have hbound : c.val ≤ 'Z'.val := UInt32.le_trans hlast (by decide)
    exact .inl (.inl (decide_eq_true ⟨hfirst, hbound⟩))

theorem Release.plain_of_isRepository {s : String} (h : isRepository s = true) :
    ∀ c ∈ s.toList, Target.IsPlain c := by
  have hpart : ∀ {cs : List Char}, isNamePart cs = true → ∀ c ∈ cs, Target.IsPlain c := by
    intro cs hcs c hc
    simp only [isNamePart, Bool.and_eq_true, List.all_eq_true, Bool.or_eq_true, beq_iff_eq] at hcs
    rcases hcs.2 c hc with (hword | rfl) | rfl
    · exact Target.isPlain_of_isWordCharacter hword
    · exact ⟨by decide, by decide, by decide, by decide⟩
    · exact ⟨by decide, by decide, by decide, by decide⟩
  unfold isRepository at h
  split at h
  · next owner name hsplit =>
    rw [Bool.and_eq_true] at h
    -- the name is put together again of the parts between its slashes
    have hjoin : ['/'].intercalate (s.toList.splitOn '/') = s.toList := List.intercalate_splitOn ..
    rw [hsplit] at hjoin
    intro c hc
    rw [← hjoin] at hc
    simp only [List.intercalate_cons_cons, List.intercalate_singleton, List.mem_append,
      List.mem_singleton] at hc
    rcases hc with (hc | rfl) | hc
    · exact hpart h.1 c hc
    · exact ⟨by decide, by decide, by decide, by decide⟩
    · exact hpart h.2 c hc
  · cases h

/-- The address of a commit is refused for its length alone, if the repository and the hash are
spelled as they should be. -/
theorem GitHubClient.of_address_error {repository sha : String}
    (hrepository : Release.isRepository repository = true)
    (hsha : ∀ c ∈ sha.toList, isHexDigit c = true) {p : AddressProblem}
    (hp : Target.of (address repository sha) = .error p) :
    p = .tooLong ∨ p = .partTooLong "path" := by
  have haddress : address repository sha =
      Text.ofChars ("/repos/".toList ++ repository.toList ++ "/commits/".toList ++ sha.toList) := by
    simp [address, Text.ofString, Text.ofChars]
  rw [haddress] at hp
  refine Target.of_error_of_plain ?_ hp
  have hslash : Target.IsPlain '/' := ⟨by decide, by decide, by decide, by decide⟩
  have hfixed : ∀ s, s = "/repos/" ∨ s = "/commits/" → ∀ c ∈ s.toList, Target.IsPlain c := by
    intro s hs c hc
    have hall : s.toList.all (fun c => c == '/' || c.isAlphanum) = true := by
      rcases hs with rfl | rfl <;> decide
    have hkind := List.all_eq_true.1 hall c hc
    rcases Bool.or_eq_true_iff.1 hkind with h | h
    · rw [beq_iff_eq.1 h]
      exact hslash
    · exact Target.isPlain_of_isAlphanum h
  intro c hc
  simp only [List.mem_append] at hc
  rcases hc with ((hc | hc) | hc) | hc
  · exact hfixed _ (.inl rfl) c hc
  · exact Release.plain_of_isRepository hrepository c hc
  · exact hfixed _ (.inr rfl) c hc
  · exact Target.isPlain_of_isAlphanum (isAlphanum_of_isHexDigit (hsha c hc))

end ReleaseNotes
