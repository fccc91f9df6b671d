import ServiceDiagram.Format.Email
import ServiceDiagram.Format.Uri
import ServiceDiagram.Proofs.Text.Runs

namespace ServiceDiagram

namespace Text

/-- A text is parted at the first occurrence of a character. -/
theorem partition_first {c : Char} {cs : List Char} (absent : c ∉ cs) (rest : List Char) :
    partition c (cs ++ c :: rest) = (cs, some rest) := by
  induction cs with
  | nil => simp [partition]
  | cons d cs ih =>
    have differs : d ≠ c := fun same => absent (same ▸ .head _)
    simp [partition, differs, ih fun later => absent (.tail _ later)]

theorem isAsciiLetter_bounds {c : Char} (letter : isAsciiLetter c = true) :
    65 ≤ c.toNat ∧ c.toNat ≤ 122 := by
  have cases : 97 ≤ c.toNat ∧ c.toNat ≤ 122 ∨ 65 ≤ c.toNat ∧ c.toNat ≤ 90 := by
    simpa [isAsciiLetter, Char.le_def, UInt32.le_iff_toNat_le] using letter
  omega

end Text

namespace Email

theorem isAtom_iff {cs : List Char} :
    isAtom cs = true ↔ cs ≠ [] ∧ ∀ c ∈ cs, c ≠ '@' ∧ Text.isBlank c = false := by
  simp [isAtom]

/-- The last character of a domain is a letter. -/
theorem last_of_isDomain {cs : List Char} (domain : isDomain cs = true) :
    ∃ c ∈ cs.getLast?, Text.isAsciiLetter c = true := by
  rw [List.getLast?_eq_head?_reverse]
  unfold isDomain at domain
  cases shape : cs.reverse with
  | nil => simp [shape] at domain
  | cons c before =>
    refine ⟨c, rfl, ?_⟩
    cases letter : Text.isAsciiLetter c with
    | true => rfl
    | false =>
      simp only [shape, List.takeWhile_cons, letter, Bool.false_eq_true, if_false, List.length_nil,
        List.drop_zero] at domain
      split at domain
      · simp at domain
      · cases domain

/-- An atom, an at sign and a domain make an address. -/
theorem accepts_parts {localPart domain : List Char} (atom : isAtom localPart = true)
    (isDomain : isDomain domain = true) :
    accepts (String.ofList (localPart ++ '@' :: domain)) = true := by
  obtain ⟨c, last, letter⟩ := last_of_isDomain isDomain
  have noBreak : (localPart ++ '@' :: domain).getLast? ≠ some '\n' := by
    rw [List.getLast?_append, List.getLast?_cons, Option.mem_def.mp last]
    simpa using Text.ne_of_test letter (d := '\n') rfl
  have noAt : '@' ∉ localPart := fun member => ((isAtom_iff.mp atom).2 _ member).1 rfl
  rw [accepts, String.toList_ofList, dropFinalBreak, if_neg noBreak, isAddress,
    Text.partition_first noAt]
  simp [atom, isDomain]

end Email

namespace Uri

/-- Whether a character may stand in a host that needs no brackets. -/
def isHostChar (c : Char) : Bool :=
  Text.isAsciiLetter c || Text.isAsciiDigit c || c == '-' || c == '.'

theorem isHostChar_small {c : Char} (host : isHostChar c = true) : c.toNat < 128 := by
  simp only [isHostChar, Bool.or_eq_true, beq_iff_eq] at host
  rcases host with ((letter | digit) | rfl) | rfl
  · have := Text.isAsciiLetter_bounds letter
    omega
  · have bounds : 48 ≤ c.toNat ∧ c.toNat ≤ 57 := by
      simpa [Text.isAsciiDigit, Char.le_def, UInt32.le_iff_toNat_le] using digit
    omega
  · decide
  · decide

/-- The scheme ends at the first colon. -/
theorem splitScheme_first {scheme : List Char} {c : Char} {cs : List Char} (shape : scheme = c :: cs)
    (letter : Text.isAsciiLetter c = true) (schemeChars : ∀ d ∈ scheme, isSchemeChar d = true)
    (rest : List Char) : splitScheme (scheme ++ ':' :: rest) = (scheme, rest) := by
  have noColon : ':' ∉ scheme := fun member => Text.ne_of_test (schemeChars _ member) rfl rfl
  have all : scheme.all isSchemeChar = true := List.all_eq_true.mpr schemeChars
  rw [splitScheme, Text.partition_first noColon]
  simp [shape ▸ all, shape, letter]

/-- The authority is what stands between two slashes and the next one. -/
theorem authorityOf_host {host : List Char} (hostChars : ∀ c ∈ host, isHostChar c = true)
    (path : List Char) : authorityOf ('/' :: '/' :: (host ++ '/' :: path)) = host := by
  have inside : ∀ c ∈ host, (c != '/' && c != '?' && c != '#') = true := by
    intro c member
    have char := hostChars c member
    simp [Text.ne_of_test char (d := '/') rfl, Text.ne_of_test char (d := '?') rfl,
      Text.ne_of_test char (d := '#') rfl]
  exact Text.takeWhile_run inside (Text.stops_cons.mpr rfl)

theorem checkBrackets_host {host : List Char} (hostChars : ∀ c ∈ host, isHostChar c = true) :
    checkBrackets host = .ok () := by
  have opening : host.contains '[' = false := by
    simpa using fun member => Text.ne_of_test (hostChars _ member) (d := '[') rfl rfl
  have closing : host.contains ']' = false := by
    simpa using fun member => Text.ne_of_test (hostChars _ member) (d := ']') rfl rfl
  rw [checkBrackets, opening, closing]

theorem checkCharacters_host {host : List Char} (hostChars : ∀ c ∈ host, isHostChar c = true) :
    checkCharacters host = .ok () := by
  refine if_neg fun found => ?_
  obtain ⟨c, member, delimiter⟩ := List.any_eq_true.mp found
  have small := isHostChar_small (hostChars c member)
  have below : c.toNat < 8263 := by omega
  simp [delimiterLikeRanges, Text.inRanges, below] at delimiter

/-- Of characters other than tabs and line breaks none is left out. -/
theorem filter_breaks {p : Char → Bool} {cs : List Char} (chars : ∀ c ∈ cs, p c = true)
    (tab : p '\t' = false) (carriage : p '\r' = false) (newline : p '\n' = false) :
    cs.filter (fun c => c != '\t' && c != '\r' && c != '\n') = cs := by
  refine List.filter_eq_self.mpr fun c member => ?_
  have char := chars c member
  simp [Text.ne_of_test char tab, Text.ne_of_test char carriage, Text.ne_of_test char newline]

/-- A scheme, two slashes, a host and a slash make an address, whatever path follows. -/
theorem accepts_parts {scheme host : List Char} {c : Char} {cs : List Char} (shape : scheme = c :: cs)
    (letter : Text.isAsciiLetter c = true) (schemeChars : ∀ d ∈ scheme, isSchemeChar d = true)
    (hostPresent : host ≠ []) (hostChars : ∀ d ∈ host, isHostChar d = true) (path : List Char) :
    accepts (String.ofList (scheme ++ ':' :: '/' :: '/' :: (host ++ '/' :: path))) = .ok true := by
  have front : Text.Stops isLeading (scheme ++ ':' :: '/' :: '/' :: (host ++ '/' :: path)) := by
    have bounds := Text.isAsciiLetter_bounds letter
    rw [shape]
    exact Text.stops_cons.mpr (decide_eq_false (by omega))
  have schemeKept := filter_breaks schemeChars rfl rfl rfl
  have hostKept := filter_breaks hostChars rfl rfl rfl
  have cleaned : (scheme ++ ':' :: '/' :: '/' :: (host ++ '/' :: path)).filter
      (fun c => c != '\t' && c != '\r' && c != '\n') =
        scheme ++ ':' :: '/' :: '/' ::
          (host ++ '/' :: path.filter fun c => c != '\t' && c != '\r' && c != '\n') := by
    simp [schemeKept, hostKept]
  rw [accepts, String.toList_ofList, Text.dropWhile_stops front, cleaned,
    splitScheme_first shape letter schemeChars]
  dsimp only
  rw [authorityOf_host hostChars, checkBrackets_host hostChars, checkCharacters_host hostChars, shape]
  simp [hostPresent, bind, Except.bind, pure, Except.pure]

end Uri

end ServiceDiagram
