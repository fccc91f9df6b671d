import ServiceDiagram.Ingest.File
import ServiceDiagram.Proofs.Json.Overlong
import ServiceDiagram.Proofs.Text.Utf8

namespace ServiceDiagram

namespace Ingest

/-- A file is read as data exactly if its bytes are text and the text, with its line breaks made
one, is JSON. -/
theorem readFile_ok_iff {files : FileTree} {path : String} {data : Value} :
    readFile files path = .ok data ↔ ∃ bytes cs, files.read path = .ok bytes ∧
      Text.Utf8.decode bytes = .ok cs ∧ Json.read (unifyBreaks cs) = .ok data := by
  unfold readFile
  cases files.read path with
  | error e => simp
  | ok bytes =>
    unfold readData
    cases decoded : Text.Utf8.decode bytes with
    | error e => simp [decoded]
    | ok cs =>
      cases read : Json.read (unifyBreaks cs) with
      | ok v => simp [decoded, read]
      | error e => cases e <;> simp [decoded, read]

theorem adapt_result {ε ε' σ α : Type} (f : ε → ε') (x : ExceptT ε (StateM σ) α) (s : σ) :
    ((ExceptT.adapt f x).run.run s).1 = (x.run.run s).1.mapError f := rfl

end Ingest

/-- A model is loaded from the plain form of a path, and named after its last part. -/
theorem Model.loadFile_eq (files : FileTree) (path : String) :
    Model.loadFile files path =
      match Ingest.readFile files (FilePath.plain path) with
      | .ok data => (Model.load data (FilePath.stem path)).mapError .load
      | .error e => .error e := by
  unfold Model.loadFile Ingest.loadFile
  dsimp only
  cases Ingest.readFile files (FilePath.plain path) with
  | error e => rfl
  | ok data =>
    exact Ingest.adapt_result FileLoadError.load (Ingest.loadModel data (FilePath.stem path)) []

/-- Whether a failure is one that reading a model promises: the file cannot be read, or what it holds
is no model. -/
def FileLoadError.IsPromised : FileLoadError → Prop
  | file e => e ≠ .nullInPath
  | load _ => True
  | encoding _ => False
  | tooManyDigits _ => False

/-- The file gives a model, or it fails as promised. -/
def Model.LoadsAsPromised (files : FileTree) (path : String) : Prop :=
  ∀ e, Model.loadFile files path = .error e → e.IsPromised

namespace Ingest

variable {cs : List Char} {bytes : List UInt8} {path : String}

theorem unifyBreaks_of_noReturn (noReturn : '\r' ∉ cs) : unifyBreaks cs = cs := by
  fun_induction unifyBreaks cs with
  | case1 => rfl
  | case2 rest ih => exact absurd List.mem_cons_self noReturn
  | case3 rest _ ih => exact absurd List.mem_cons_self noReturn
  | case4 c rest _ _ ih => rw [ih fun member => noReturn (.tail c member)]

/-- Digits in front of a text stay there, whatever line breaks it has. -/
theorem prefix_of_unifyBreaks {ds : List Char} (digits : ∀ d ∈ ds, d.isDigit = true)
    (front : ds <+: unifyBreaks cs) : ds <+: cs := by
  have noBreak {ds' rest : List Char} (front : ds' <+: '\n' :: rest)
      (digits : ∀ d ∈ ds', d.isDigit = true) : ds' = [] := by
    rcases List.prefix_cons_iff.mp front with empty | ⟨more, rfl, -⟩
    · exact empty
    · exact absurd (digits '\n' List.mem_cons_self) (by decide)
  fun_induction unifyBreaks cs generalizing ds with
  | case1 => exact front
  | case2 rest ih =>
    rw [noBreak front digits]
    exact List.nil_prefix
  | case3 rest _ ih =>
    rw [noBreak front digits]
    exact List.nil_prefix
  | case4 c rest _ _ ih =>
    rcases List.prefix_cons_iff.mp front with rfl | ⟨more, rfl, later⟩
    · exact List.nil_prefix
    · exact (List.prefix_cons_inj c).mpr (ih (List.forall_mem_cons.mp digits).2 later)

theorem exists_suffix_of_unifyBreaks {rest : List Char} (left : rest <:+ unifyBreaks cs) :
    ∃ cs', cs' <:+ cs ∧ rest = unifyBreaks cs' := by
  fun_induction unifyBreaks cs with
  | case1 => exact ⟨[], List.suffix_rfl, List.suffix_nil.mp left⟩
  | case2 more ih =>
    rcases List.suffix_cons_iff.mp left with rfl | later
    · exact ⟨_, List.suffix_rfl, by rw [unifyBreaks]⟩
    · obtain ⟨cs', within, same⟩ := ih later
      exact ⟨cs', within.trans (List.suffix_append ['\r', '\n'] more), same⟩
  | case3 more noPair ih =>
    rcases List.suffix_cons_iff.mp left with rfl | later
    · exact ⟨_, List.suffix_rfl, (unifyBreaks.eq_3 more noPair).symm⟩
    · obtain ⟨cs', within, same⟩ := ih later
      exact ⟨cs', within.trans (List.suffix_cons ..), same⟩
  | case4 c more noPair noReturn ih =>
    rcases List.suffix_cons_iff.mp left with rfl | later
    · exact ⟨_, List.suffix_rfl, (unifyBreaks.eq_4 c more noPair noReturn).symm⟩
    · obtain ⟨cs', within, same⟩ := ih later
      exact ⟨cs', within.trans (List.suffix_cons ..), same⟩

/-- Plain line breaks bring no digits together. -/
theorem infix_of_unifyBreaks {ds : List Char} (digits : ∀ d ∈ ds, d.isDigit = true)
    (inside : ds <:+: unifyBreaks cs) : ds <:+: cs := by
  obtain ⟨rest, front, left⟩ := List.infix_iff_prefix_suffix.mp inside
  obtain ⟨cs', within, rfl⟩ := exists_suffix_of_unifyBreaks left
  exact (prefix_of_unifyBreaks digits front).isInfix.trans within.isInfix

theorem readData_encode_promised_iff :
    (∀ e, readData path (Text.Utf8.encode cs) = .error e → e.IsPromised) ↔
      ∀ n, Json.read (unifyBreaks cs) ≠ .error (.tooManyDigits n) := by
  unfold readData
  rw [Text.Utf8.decode_encode]
  dsimp only
  cases Json.read (unifyBreaks cs) with
  | ok v => simp
  | error e => cases e <;> simp [FileLoadError.IsPromised]

/-- The promise is kept for bytes exactly if they are text without an integer of too many digits. -/
theorem readData_promised_iff :
    (∀ e, readData path bytes = .error e → e.IsPromised) ↔
      ∃ cs, bytes = Text.Utf8.encode cs ∧
        ∀ n, Json.read (unifyBreaks cs) ≠ .error (.tooManyDigits n) := by
  cases decoded : Text.Utf8.decode bytes with
  | error e =>
    have broken : readData path bytes = .error (.encoding e) := by rw [readData, decoded]
    refine iff_of_false (fun promised => promised _ broken) ?_
    rintro ⟨cs, rfl, -⟩
    cases decoded.symm.trans (Text.Utf8.decode_encode cs)
  | ok cs =>
    obtain rfl : bytes = Text.Utf8.encode cs := Text.Utf8.decode_ok_iff.mp decoded
    rw [readData_encode_promised_iff]
    refine ⟨fun short => ⟨cs, rfl, short⟩, ?_⟩
    rintro ⟨cs', same, short⟩
    cases decoded.symm.trans (Text.Utf8.decode_ok_iff.mpr same)
    exact short

theorem load_promised {data : Value} {e : FileLoadError}
    (failed : (Model.load data (FilePath.stem path)).mapError FileLoadError.load = .error e) :
    e.IsPromised := by
  cases given : Model.load data (FilePath.stem path) with
  | ok m =>
    rw [given] at failed
    cases failed
  | error e' =>
    rw [given] at failed
    cases failed
    trivial

/-- Whether the promise is kept is settled when the data in the file have been read. -/
theorem loadsAsPromised_iff_readFile {files : FileTree} :
    Model.LoadsAsPromised files path ↔
      ∀ e, readFile files (FilePath.plain path) = .error e → e.IsPromised := by
  unfold Model.LoadsAsPromised
  rw [Model.loadFile_eq]
  cases readFile files (FilePath.plain path) with
  | error e => simp
  | ok data => exact iff_of_true (fun e => load_promised) (fun e failed => by cases failed)

theorem loadsAsPromised_iff_readData {files : FileTree}
    (isFile : files.read (FilePath.plain path) = .ok bytes) :
    Model.LoadsAsPromised files path ↔
      ∀ e, readData (FilePath.plain path) bytes = .error e → e.IsPromised := by
  rw [loadsAsPromised_iff_readFile, readFile, isFile]

/-- It is kept for every text without a long row of digits. -/
theorem loadsAsPromised_of_short {files : FileTree}
    (isFile : files.read (FilePath.plain path) = .ok (Text.Utf8.encode cs))
    (short : ∀ ds, ds <:+: cs → (∀ d ∈ ds, d.isDigit = true) → ds.length ≤ digitLimit) :
    Model.LoadsAsPromised files path := by
  rw [loadsAsPromised_iff_readData isFile, readData_encode_promised_iff]
  intro n refused
  obtain ⟨long, ds, inside, length, digits⟩ := Json.overlong_of_read refused
  have bound := short ds (infix_of_unifyBreaks digits inside) digits
  omega

theorem unifyBreaks_intText (n : Int) : unifyBreaks (intText n).toList = (intText n).toList := by
  refine unifyBreaks_of_noReturn fun member => ?_
  have noDigit : '\r' ∉ natDigits n.natAbs := fun member =>
    absurd (natDigits_ascii member) (by decide)
  unfold intText at member
  split at member
  · simp [noDigit] at member
  · simp [noDigit] at member

/-- For the text of an integer it is kept exactly up to the limit. -/
theorem loadsAsPromised_intText_iff {files : FileTree} {n : Int}
    (isFile : files.read (FilePath.plain path) = .ok (Text.Utf8.encode (intText n).toList)) :
    Model.LoadsAsPromised files path ↔ n.natAbs < 10 ^ digitLimit := by
  rw [loadsAsPromised_iff_readData isFile, readData_encode_promised_iff, unifyBreaks_intText,
    Json.read_intText]
  split
  · rename_i short
    exact iff_of_true (fun _ => nofun) short
  · rename_i long
    exact iff_of_false (fun promised => promised _ rfl) long

/-- A path is refused for a null character exactly if it has one. -/
theorem read_nullInPath_iff {files : FileTree} {e : FileError} (failed : files.read path = .error e) :
    e = .nullInPath ↔ Char.ofNat 0 ∈ path.toList := by
  rw [← List.contains_iff_mem]
  unfold FileTree.read at failed
  split at failed
  · rename_i null
    cases failed
    exact iff_of_true rfl null
  · rename_i noNull
    refine iff_of_false ?_ noNull
    rintro rfl
    split at failed
    · cases failed
    · split at failed
      · cases failed
      · split at failed
        · cases failed
        · cases failed

end Ingest

open Ingest in
/-- A file that cannot be read is reported as such, whatever the reason; only a path with a null
character breaks the promise. A file that is read keeps it exactly if its bytes are a text in which no
integer is refused: every text does in which no row of more digits stands than an integer may have,
and the text of an integer does exactly if it has not more. -/
theorem Model.loadFile_promise (files : FileTree) (path : String) :
    (∀ e, files.read (FilePath.plain path) = .error e →
      Model.loadFile files path = .error (.file e) ∧
      (Model.LoadsAsPromised files path ↔ Char.ofNat 0 ∉ (FilePath.plain path).toList)) ∧
    ∀ bytes, files.read (FilePath.plain path) = .ok bytes →
      (Model.LoadsAsPromised files path ↔ ∃ cs, bytes = Text.Utf8.encode cs ∧
        ∀ n, Json.read (unifyBreaks cs) ≠ .error (.tooManyDigits n)) ∧
      (∀ cs, bytes = Text.Utf8.encode cs →
        (∀ ds, ds <:+: cs → (∀ d ∈ ds, d.isDigit = true) → ds.length ≤ digitLimit) →
        Model.LoadsAsPromised files path) ∧
      ∀ n : Int, bytes = Text.Utf8.encode (intText n).toList →
        (Model.LoadsAsPromised files path ↔ n.natAbs < 10 ^ digitLimit) := by
  refine ⟨fun e unread => ?_, fun bytes isFile => ⟨?_, ?_, ?_⟩⟩
  · have reads : readFile files (FilePath.plain path) = .error (.file e) := by
      rw [readFile, unread]
    refine ⟨by rw [Model.loadFile_eq, reads], ?_⟩
    rw [loadsAsPromised_iff_readFile, reads, ← read_nullInPath_iff unread]
    exact ⟨fun promised => promised _ rfl, fun other e' failed => by cases failed; exact other⟩
  · rw [loadsAsPromised_iff_readData isFile, readData_promised_iff]
  · rintro cs rfl short
    exact loadsAsPromised_of_short isFile short
  · rintro n rfl
    exact loadsAsPromised_intText_iff isFile

/-- One byte that begins no character breaks the promise. -/
theorem Model.loadFile_promise_sample : FileTree.read [("m.json", [0xFF])] (FilePath.plain "m.json") =
      .ok [0xFF] ∧ ¬ Model.LoadsAsPromised [("m.json", [0xFF])] "m.json" := by
  have isFile : FileTree.read [("m.json", [0xFF])] (FilePath.plain "m.json") = .ok [0xFF] := rfl
  refine ⟨isFile, fun promised => ?_⟩
  obtain ⟨cs, same, -⟩ := ((Model.loadFile_promise _ _).2 _ isFile).1.mp promised
  cases Text.Utf8.decode_ok_iff.mpr same

end ServiceDiagram
