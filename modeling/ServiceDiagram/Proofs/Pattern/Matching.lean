import Mathlib.Computability.Language
import ServiceDiagram.Pattern.Matcher

namespace ServiceDiagram.Pattern

/-- The state once a word was passed, before what is left. -/
def MatchState.past (s : MatchState) (w rest : List Char) : MatchState :=
  ⟨w.reverse ++ s.before, rest, s.captures⟩

theorem MatchState.past_past (s : MatchState) (w w' rest rest' : List Char) :
    (s.past w rest).past w' rest' = s.past (w ++ w') rest' := by
  simp [past]

/-- A word of the language stands next, and what follows succeeds after it. -/
def Reaches (L : Language Char) (s : MatchState) (k : MatchState → Option MatchState) : Prop :=
  ∃ w rest, s.after = w ++ rest ∧ w ∈ L ∧ (k (s.past w rest)).isSome = true

/-- The matcher succeeds just where it may pass over a word of the language. -/
def Passes (m : Matcher) (L : Language Char) : Prop :=
  ∀ s k, (m s k).isSome = true ↔ Reaches L s k

variable {groups : List (Option Width)} {flags : Flags} {m : Matcher} {L M : Language Char}
variable {s : MatchState} {k : MatchState → Option MatchState}

/-- Over the empty word what follows succeeds here. -/
theorem reaches_one : Reaches 1 s k ↔ (k s).isSome = true := by
  constructor
  · rintro ⟨w, rest, stands, word, follows⟩
    obtain rfl := (Language.mem_one w).mp word
    obtain rfl : s.after = rest := stands
    exact follows
  · intro follows
    exact ⟨[], s.after, rfl, Language.nil_mem_one, follows⟩

/-- What lies behind a product of languages lies behind the second behind the first. -/
theorem reaches_mul :
    Reaches (L * M) s k ↔
      ∃ w rest, s.after = w ++ rest ∧ w ∈ L ∧ Reaches M (s.past w rest) k := by
  constructor
  · rintro ⟨both, rest, stands, word, follows⟩
    obtain ⟨w, first, w', later, rfl⟩ := Language.mem_mul.mp word
    rw [← MatchState.past_past s w w' (w' ++ rest) rest] at follows
    exact ⟨w, w' ++ rest, by rw [stands, List.append_assoc], first, w', rest, rfl, later, follows⟩
  · rintro ⟨w, rest, stands, word, w', rest', stands', word', follows⟩
    obtain rfl : rest = w' ++ rest' := stands'
    rw [MatchState.past_past] at follows
    exact ⟨w ++ w', rest', by rw [stands, List.append_assoc],
      Language.mem_mul.mpr ⟨w, word, w', word', rfl⟩, follows⟩

theorem passes_nil : Passes (matchNodes groups flags []) 1 := fun _ _ => reaches_one.symm

/-- Nodes one after the other pass over the product of their languages. -/
theorem Passes.cons {n : Node} {nodes : List Node} (first : Passes (n.matcher groups flags) L)
    (later : Passes (matchNodes groups flags nodes) M) :
    Passes (matchNodes groups flags (n :: nodes)) (L * M) := by
  intro s k
  rw [matchNodes, first, reaches_mul]
  simp only [Reaches, later _ k]

theorem Passes.single {n : Node} (first : Passes (n.matcher groups flags) L) :
    Passes (matchNodes groups flags [n]) L := by
  have passes := first.cons passes_nil
  rwa [mul_one] at passes

/-- Nodes one after the other are matched one after the other. -/
theorem matchNodes_append (nodes later : List Node) (s : MatchState)
    (k : MatchState → Option MatchState) :
    matchNodes groups flags (nodes ++ later) s k =
      matchNodes groups flags nodes s fun t => matchNodes groups flags later t k := by
  induction nodes generalizing s with
  | nil => rw [List.nil_append, matchNodes]
  | cons n nodes ih =>
    rw [List.cons_append, matchNodes, matchNodes]
    simp only [ih]

/-- The words of one character that passes a test. -/
def oneOf (ok : Char → Bool) : Language Char := {w | ∃ c, ok c = true ∧ w = [c]}

/-- Taking one character passes over the words of that one character. -/
theorem passes_take {ok : Char → Bool} : Passes (fun s k => (s.take? ok).bind k) (oneOf ok) := by
  intro s k
  constructor
  · intro follows
    obtain ⟨before, after, captures⟩ := s
    cases after with
    | nil => nomatch follows
    | cons c rest =>
      cases passed : ok c with
      | false => simp [MatchState.take?, passed] at follows
      | true =>
        simp only [MatchState.take?, passed, if_true, Option.bind_some] at follows
        exact ⟨[c], rest, rfl, ⟨c, passed, rfl⟩, follows⟩
  · rintro ⟨w, rest, stands, ⟨c, passed, rfl⟩, follows⟩
    obtain ⟨before, after, captures⟩ := s
    obtain rfl : after = c :: rest := stands
    simp only [MatchState.take?, passed, if_true, Option.bind_some]
    exact follows

/-- A set of characters passes over its characters. -/
theorem passes_oneOf (negated : Bool) (items : List SetItem) :
    Passes ((Node.oneOf negated items).matcher groups flags)
      (oneOf ((Style.ofFlags flags).inSet negated items)) :=
  passes_take

/-- A character passes over what counts as the same. -/
theorem passes_char (code : Nat) :
    Passes ((Node.char code).matcher groups flags)
      (oneOf ((Style.ofFlags flags).sameChar code)) :=
  passes_take

/-- A greedy repetition without an upper bound, with enough fuel for a word each time. The words
must not be empty: then no repetition starts where the last one started. -/
theorem reaches_repeatGreedy (passes : Passes m L) (nonempty : [] ∉ L) {least fuel count : Nat}
    {last : Option Nat} (enough : s.after.length < fuel)
    (moved : ∀ place ∈ last, s.after.length < place) :
    (repeatGreedy m least none fuel count last s k).isSome = true ↔
      ∃ n, least ≤ count + n ∧ Reaches (L ^ n) s k := by
  induction fuel generalizing s count last with
  | zero => omega
  | succ fuel ih =>
    -- One more repetition and then as many as are wanted.
    have again (last' : Option Nat) (here : ∀ place ∈ last', s.after.length ≤ place) :
        (m s fun t => repeatGreedy m least none fuel (count + 1) last' t k).isSome = true ↔
          ∃ n, least ≤ count + (n + 1) ∧ Reaches (L ^ (n + 1)) s k := by
      have later {w rest : List Char} (stands : s.after = w ++ rest) (word : w ∈ L) :
          (repeatGreedy m least none fuel (count + 1) last' (s.past w rest) k).isSome = true ↔
            ∃ n, least ≤ count + 1 + n ∧ Reaches (L ^ n) (s.past w rest) k := by
        have some : w ≠ [] := fun empty => nonempty (empty ▸ word)
        have shorter : rest.length < s.after.length := by
          have := List.length_pos_iff.mpr some
          rw [stands, List.length_append]
          omega
        exact ih (shorter.trans_le (Nat.le_of_lt_succ enough))
          fun place member => shorter.trans_le (here place member)
      rw [passes]
      constructor
      · rintro ⟨w, rest, stands, word, follows⟩
        obtain ⟨n, most, reaches⟩ := (later stands word).mp follows
        refine ⟨n, by omega, ?_⟩
        rw [pow_succ']
        exact reaches_mul.mpr ⟨w, rest, stands, word, reaches⟩
      · rintro ⟨n, most, reaches⟩
        rw [pow_succ'] at reaches
        obtain ⟨w, rest, stands, word, reaches⟩ := reaches_mul.mp reaches
        exact ⟨w, rest, stands, word, (later stands word).mpr ⟨n, by omega, reaches⟩⟩
    unfold repeatGreedy
    split
    · rename_i wanting
      rw [again last fun place member => Nat.le_of_lt (moved place member)]
      constructor
      · rintro ⟨n, most, reaches⟩
        exact ⟨n + 1, most, reaches⟩
      · rintro ⟨n, most, reaches⟩
        cases n with
        | zero => omega
        | succ n => exact ⟨n, most, reaches⟩
    · rename_i satisfied
      have fresh : last ≠ some s.after.length := fun same =>
        absurd (moved _ same) (Nat.lt_irrefl _)
      have longer := again (some s.after.length) fun place member =>
        Nat.le_of_eq (Option.some.inj member)
      have more : (true && last != some s.after.length) = true := by simp [fresh]
      simp only [Option.map_none, Option.getD_none, more, if_true]
      constructor
      · intro found
        split at found
        · rename_i t given
          obtain ⟨n, most, reaches⟩ := longer.mp (given ▸ rfl)
          exact ⟨n + 1, most, reaches⟩
        · exact ⟨0, by omega, reaches_one.mpr found⟩
      · rintro ⟨n, most, reaches⟩
        split
        · rfl
        · rename_i failed
          cases n with
          | zero => exact reaches_one.mp reaches
          | succ n =>
            have found := longer.mpr ⟨n, most, reaches⟩
            rw [failed] at found
            nomatch found

/-- The words that are made of so many words of a language or more. -/
def atLeast (least : Nat) (L : Language Char) : Language Char := {w | ∃ n, least ≤ n ∧ w ∈ L ^ n}

/-- A greedy repetition without an upper bound passes over as many words as are wanted. -/
theorem passes_loop {body : List Node} (least : Nat)
    (passes : Passes (matchNodes groups flags body) L) (nonempty : [] ∉ L) :
    Passes ((Node.loop .greedy least none body).matcher groups flags) (atLeast least L) := by
  intro s k
  have fuel : s.after.length < least + s.after.length + 2 := by omega
  rw [Node.matcher, repeated]
  refine (reaches_repeatGreedy passes nonempty fuel (by simp)).trans ?_
  constructor
  · rintro ⟨n, most, w, rest, stands, word, follows⟩
    exact ⟨w, rest, stands, ⟨n, by omega, word⟩, follows⟩
  · rintro ⟨w, rest, stands, ⟨n, most, word⟩, follows⟩
    exact ⟨n, by omega, w, rest, stands, word, follows⟩

theorem mem_oneOf_pow {ok : Char → Bool} {n : Nat} {w : List Char} :
    w ∈ oneOf ok ^ n ↔ w.length = n ∧ ∀ c ∈ w, ok c = true := by
  induction n generalizing w with
  | zero =>
    rw [pow_zero, Language.mem_one]
    constructor
    · rintro rfl
      exact ⟨rfl, fun c member => nomatch member⟩
    · exact fun ⟨length, _⟩ => List.length_eq_zero_iff.mp length
  | succ n ih =>
    rw [pow_succ', Language.mem_mul]
    constructor
    · rintro ⟨first, ⟨c, passed, rfl⟩, later, word, rfl⟩
      obtain ⟨length, each⟩ := ih.mp word
      exact ⟨congrArg Nat.succ length, List.forall_mem_cons.mpr ⟨passed, each⟩⟩
    · rintro ⟨length, each⟩
      cases w with
      | nil => nomatch length
      | cons c w =>
        obtain ⟨passed, later⟩ := List.forall_mem_cons.mp each
        exact ⟨[c], ⟨c, passed, rfl⟩, w, ih.mpr ⟨Nat.succ.inj length, later⟩, rfl⟩

/-- The words of many characters of one class are the long enough rows of them. -/
theorem mem_atLeast_oneOf {ok : Char → Bool} {least : Nat} {w : List Char} :
    w ∈ atLeast least (oneOf ok) ↔ least ≤ w.length ∧ ∀ c ∈ w, ok c = true := by
  constructor
  · rintro ⟨n, most, word⟩
    obtain ⟨rfl, each⟩ := mem_oneOf_pow.mp word
    exact ⟨most, each⟩
  · rintro ⟨most, each⟩
    exact ⟨w.length, most, mem_oneOf_pow.mpr ⟨rfl, each⟩⟩

theorem nil_not_mem_oneOf {ok : Char → Bool} : [] ∉ oneOf ok := by
  rintro ⟨c, -, empty⟩
  nomatch empty

/-- A repeated set passes over the words of its characters that are long enough. -/
theorem passes_setLoop (least : Nat) (negated : Bool) (items : List SetItem) :
    Passes ((Node.loop .greedy least none [.oneOf negated items]).matcher groups flags)
      {w | least ≤ w.length ∧ ∀ c ∈ w, (Style.ofFlags flags).inSet negated items c = true} := by
  have passes : Passes ((Node.loop .greedy least none [.oneOf negated items]).matcher groups flags)
      (atLeast least (oneOf ((Style.ofFlags flags).inSet negated items))) :=
    passes_loop least (passes_oneOf negated items).single nil_not_mem_oneOf
  have same : atLeast least (oneOf ((Style.ofFlags flags).inSet negated items)) =
      {w | least ≤ w.length ∧ ∀ c ∈ w, (Style.ofFlags flags).inSet negated items c = true} :=
    Set.ext fun w => mem_atLeast_oneOf
  rwa [same] at passes

/-- Where nothing can match but at the front, a search tries the front only. -/
theorem searchFrom_front {m : Matcher} {before cs : List Char}
    (front : ∀ c earlier rest k, m ⟨c :: earlier, rest, []⟩ k = none) :
    searchFrom m before cs = (m ⟨before, cs, []⟩ some).isSome := by
  have none (c : Char) (earlier rest : List Char) : searchFrom m (c :: earlier) rest = false := by
    induction rest generalizing c earlier with
    | nil => rw [searchFrom, front, Option.isSome_none]
    | cons d rest ih => rw [searchFrom, front, Option.isSome_none, ih, Bool.or_self]
  cases cs with
  | nil => rfl
  | cons c rest => rw [searchFrom, none, Bool.or_false]

theorem holdsAt_lineStart {y : Style} (oneLine : y.multiLine = false) (s : MatchState) :
    y.holdsAt s .lineStart = s.before.isEmpty := by
  rw [Style.holdsAt, oneLine, Bool.false_and, Bool.or_false]

/-- Without the flag for lines, the end of the line is the end of the text or a line break before
it. -/
theorem holdsAt_lineEnd {y : Style} (oneLine : y.multiLine = false) (s : MatchState) :
    y.holdsAt s .lineEnd = true ↔ s.after = [] ∨ s.after = ['\n'] := by
  rw [Style.holdsAt, oneLine, Bool.false_and, Bool.or_false, Bool.or_eq_true, List.isEmpty_iff,
    beq_iff_eq]

/-- A pattern between the anchors for the begin and the end of a line, with lines not told apart,
matches the words of its language, and these with one line break after them. -/
theorem search_anchored {p : Pattern} {body : List Node} {s : String}
    (nodes : p.nodes = .anchor .lineStart :: (body ++ [.anchor .lineEnd]))
    (oneLine : p.flags.contains .multiLine = false)
    (passes : Passes (matchNodes p.groups p.flags body) L) :
    p.search s = true ↔ ∃ w ∈ L, s.toList = w ∨ s.toList = w ++ ['\n'] := by
  have notMulti : (Style.ofFlags p.flags).multiLine = false := oneLine
  have front (c : Char) (earlier rest : List Char) (k : MatchState → Option MatchState) :
      matchNodes p.groups p.flags p.nodes ⟨c :: earlier, rest, []⟩ k = none := by
    rw [nodes, matchNodes, Node.matcher]
    simp only [holdsAt_lineStart notMulti]
    rfl
  have whole : p.search s =
      (matchNodes p.groups p.flags body ⟨[], s.toList, []⟩ fun t =>
        if (Style.ofFlags p.flags).holdsAt t .lineEnd then some t else none).isSome := by
    rw [search, searchFrom_front front, nodes, matchNodes, Node.matcher]
    simp only [holdsAt_lineStart notMulti, matchNodes_append]
    rfl
  rw [whole, passes]
  constructor
  · rintro ⟨w, rest, stands, word, follows⟩
    refine ⟨w, word, ?_⟩
    dsimp only at stands follows
    split at follows
    · rename_i ends
      rw [holdsAt_lineEnd notMulti] at ends
      rw [stands]
      rcases ends with ends | ends
      · exact .inl (by rw [show rest = [] from ends, List.append_nil])
      · exact .inr (by rw [show rest = ['\n'] from ends])
    · nomatch follows
  · rintro ⟨w, word, ends⟩
    have reaches (rest : List Char) (ends : rest = [] ∨ rest = ['\n'])
        (stands : s.toList = w ++ rest) :
        Reaches L ⟨[], s.toList, []⟩ fun t =>
          if (Style.ofFlags p.flags).holdsAt t .lineEnd then some t else none := by
      have holds : (Style.ofFlags p.flags).holdsAt
          (MatchState.past ⟨[], s.toList, []⟩ w rest) .lineEnd = true :=
        (holdsAt_lineEnd notMulti _).mpr ends
      refine ⟨w, rest, stands, word, ?_⟩
      dsimp only
      rw [if_pos holds]
      rfl
    rcases ends with ends | ends
    · exact reaches [] (.inl rfl) (by rw [ends, List.append_nil])
    · exact reaches ['\n'] (.inr rfl) ends

end ServiceDiagram.Pattern
