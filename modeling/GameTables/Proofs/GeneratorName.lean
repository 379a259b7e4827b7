import Mathlib.Data.List.Forall2
import Mathlib.Data.List.TakeWhile
import GameTables.CommandLine
import GameTables.Proofs.TableSource.Acceptance

/-!
# The name of the generator

A generated file begins with a comment that names the generator, and the rest of it does not depend on the
name. The comment is put before the finished text as it stands; so where the name has a line break, the
comment is not the first line, and what stands behind the break in the name is source.
-/

namespace GameTables

open PacketSource (GeneratedFile)

/-! ## Two runs -/

/-- Two runs fail with the same error, or both succeed, with results that are related. -/
inductive Alike {ε α : Type} (related : α → α → Prop) : Except ε α → Except ε α → Prop where
  | failed (e : ε) : Alike related (.error e) (.error e)
  | passed {a a' : α} (here : related a a') : Alike related (.ok a) (.ok a')

theorem Alike.of_return {ε α β : Type} {related : α → α → Prop} {check : Except ε β} {make make' : β → α}
    (each : ∀ b, related (make b) (make' b)) :
    Alike related (do return make (← check)) (do return make' (← check)) := by
  cases check with
  | error e => exact .failed e
  | ok b => exact .passed (each b)

/-- Where related results are related in another way under a condition, so are the runs, unless they
fail. -/
theorem Alike.iff_of_related {ε α : Type} {related narrower : α → α → Prop} {run run' : Except ε α}
    {condition : Prop} (alike : Alike related run run')
    (narrow : ∀ a a', related a a' → (narrower a a' ↔ condition)) :
    Alike narrower run run' ↔ (∃ e, run = .error e) ∨ condition := by
  cases alike with
  | failed e => exact ⟨fun _ => .inl ⟨e, rfl⟩, fun _ => .failed e⟩
  | passed here =>
    constructor
    · rintro ⟨⟩
      next there => exact .inr ((narrow _ _ here).mp there)
    · rintro (⟨_, failed⟩ | holds)
      · cases failed
      · exact .passed ((narrow _ _ here).mpr holds)

/-! ## The comment -/

/-- The comment that names a generator. -/
def headerComment (generator : String) : String := "// Automatically generated by " ++ generator

/-- The text up to the first line break. -/
def firstLine (text : String) : String := String.ofList (text.toList.takeWhile (· ≠ '\n'))

/-- The text behind the first line break. -/
def behindFirstLine (text : String) : String :=
  String.ofList ((text.toList.dropWhile (· ≠ '\n')).drop 1)

/-- Two texts are the comments for two generators with the same text behind them. -/
def Spliced (generator generator' text text' : String) : Prop :=
  ∃ rest, text = headerComment generator ++ "\n" ++ rest ∧
    text' = headerComment generator' ++ "\n" ++ rest

/-- The first lines of two texts are the comments for two generators, and behind the first lines the texts
are the same. -/
structure DifferInHeader (generator generator' text text' : String) : Prop where
  first : firstLine text = headerComment generator
  first' : firstLine text' = headerComment generator'
  rest : behindFirstLine text = behindFirstLine text'

variable {generator generator' : String}

theorem newline_mem_headerComment : '\n' ∈ (headerComment generator).toList ↔ '\n' ∈ generator.toList := by
  have whole : '\n' ∉ "// Automatically generated by ".toList := by decide +kernel
  unfold headerComment
  simp only [String.toList_append, List.mem_append, whole, false_or]

theorem newline_not_mem_firstLine (text : String) : '\n' ∉ (firstLine text).toList := by
  intro here
  rw [firstLine, String.toList_ofList] at here
  simpa using List.mem_takeWhile_imp here

/-- A line is the first of a text, and the rest stands behind it. -/
theorem firstLine_append {line : String} (whole : '\n' ∉ line.toList) (rest : String) :
    firstLine (line ++ "\n" ++ rest) = line ∧ behindFirstLine (line ++ "\n" ++ rest) = rest := by
  have before : ∀ c ∈ line.toList, decide (c ≠ '\n') = true := by
    intro c here
    simpa using fun same : c = '\n' => whole (same ▸ here)
  have text : (line ++ "\n" ++ rest).toList = line.toList ++ '\n' :: rest.toList := by simp
  constructor
  · rw [firstLine, text, List.takeWhile_append_of_pos before]
    simp
  · rw [behindFirstLine, text, List.dropWhile_append_of_pos before]
    simp

/-- The texts differ in their first lines only, exactly if neither name has a line break. -/
theorem Spliced.differInHeader_iff {text text' : String} (spliced : Spliced generator generator' text text') :
    DifferInHeader generator generator' text text' ↔
      '\n' ∉ generator.toList ∧ '\n' ∉ generator'.toList := by
  obtain ⟨rest, rfl, rfl⟩ := spliced
  constructor
  · rintro ⟨first, first', _⟩
    refine ⟨newline_mem_headerComment.not.mp ?_, newline_mem_headerComment.not.mp ?_⟩
    · rw [← first]
      exact newline_not_mem_firstLine _
    · rw [← first']
      exact newline_not_mem_firstLine _
  · rintro ⟨whole, whole'⟩
    obtain ⟨first, behind⟩ := firstLine_append (newline_mem_headerComment.not.mpr whole) rest
    obtain ⟨first', behind'⟩ := firstLine_append (newline_mem_headerComment.not.mpr whole') rest
    exact ⟨first, first', behind.trans behind'.symm⟩

theorem spliced_generatedFile (lines : List String) :
    Spliced generator generator' (Text.generatedFile generator lines)
      (Text.generatedFile generator' lines) := by
  have apart (name : String) : Text.generatedFile name lines =
      headerComment name ++ "\n" ++ ("\n" ++ Text.joinLines lines) := by
    have breaks : "\n\n" = "\n" ++ "\n" := by decide +kernel
    unfold Text.generatedFile headerComment
    rw [breaks, ← String.append_assoc, ← String.append_assoc]
  exact ⟨_, apart generator, apart generator'⟩

/-! ## Both generators -/

/-- The four files of two runs have the same names, and the texts of each are related. -/
structure FilesRelated (related : String → String → Prop) (files files' : List GeneratedFile) : Prop where
  names : files.map (·.name) = ["mod.rs", "misc.rs", "serverbound.rs", "clientbound.rs"]
  contents : List.Forall₂ (fun file file' => file.name = file'.name ∧
    related file.contents file'.contents) files files'

/-- There is a file, so what the relation comes down to does not hold for want of files. -/
theorem FilesRelated.iff_of_related {related narrower : String → String → Prop} {condition : Prop}
    {files files' : List GeneratedFile} (here : FilesRelated related files files')
    (narrow : ∀ text text', related text text' → (narrower text text' ↔ condition)) :
    FilesRelated narrower files files' ↔ condition := by
  constructor
  · rintro ⟨_, contents⟩
    obtain ⟨names, before⟩ := here
    cases contents with
    | nil => cases names
    | cons there _ =>
      cases before with
      | cons first _ => exact (narrow _ _ first.2).mp there.2
  · intro holds
    refine ⟨here.names, here.contents.imp ?_⟩
    rintro file file' ⟨same, first⟩
    exact ⟨same, (narrow _ _ first).mpr holds⟩

theorem TableSource.alike_generate (generator generator' blocksText propertiesText : String) :
    Alike (Spliced generator generator') (generate generator blocksText propertiesText)
      (generate generator' blocksText propertiesText) := by
  rw [generate_eq, generate_eq]
  cases layProperties propertiesText with
  | error e => exact .failed e
  | ok laid => exact .of_return fun _ => spliced_generatedFile _

theorem PacketSource.alike_generate (generator generator' text : String) :
    Alike (FilesRelated (Spliced generator generator')) (generate generator text)
      (generate generator' text) := by
  refine .of_return fun protocol => ⟨rfl, ?_⟩
  have file (name : String) (lines : List String) : name = name ∧ Spliced generator generator'
      (Text.generatedFile generator lines) (Text.generatedFile generator' lines) :=
    ⟨rfl, spliced_generatedFile lines⟩
  exact .cons (file _ _) (.cons (file _ _) (.cons (file _ _) (.cons (file _ _) .nil)))

/-- Under two names both generators fail with the same error, or they make texts that are the comments for
the two names with the same text behind them. So the texts differ in their first lines only, which are the
comments, unless one of the names has a line break. -/
theorem generator_in_header (generator generator' : String) :
    (∀ blocksText propertiesText,
      Alike (Spliced generator generator')
        (TableSource.generate generator blocksText propertiesText)
        (TableSource.generate generator' blocksText propertiesText) ∧
      (Alike (DifferInHeader generator generator')
          (TableSource.generate generator blocksText propertiesText)
          (TableSource.generate generator' blocksText propertiesText) ↔
        (∃ e, TableSource.generate generator blocksText propertiesText = .error e) ∨
          ('\n' ∉ generator.toList ∧ '\n' ∉ generator'.toList))) ∧
    ∀ text,
      Alike (FilesRelated (Spliced generator generator')) (PacketSource.generate generator text)
        (PacketSource.generate generator' text) ∧
      (Alike (FilesRelated (DifferInHeader generator generator')) (PacketSource.generate generator text)
          (PacketSource.generate generator' text) ↔
        (∃ e, PacketSource.generate generator text = .error e) ∨
          ('\n' ∉ generator.toList ∧ '\n' ∉ generator'.toList)) := by
  refine ⟨fun blocksText propertiesText => ?_, fun text => ?_⟩
  · have alike := TableSource.alike_generate generator generator' blocksText propertiesText
    exact ⟨alike, alike.iff_of_related fun _ _ spliced => spliced.differInHeader_iff⟩
  · have alike := PacketSource.alike_generate generator generator' text
    refine ⟨alike, alike.iff_of_related fun _ _ related => ?_⟩
    exact related.iff_of_related fun _ _ spliced => spliced.differInHeader_iff

/-- What a tool is called by whose file name has a line break. -/
def brokenName : Bytes := [0x61, 0x0A, 0x62]

def plainName : Bytes := [0x67]

/-- Names are taken from what the tools are called by, and file names may have line breaks. -/
theorem broken_name_leaves_header :
    ¬ ∀ (program program' : Bytes) (blocksText propertiesText : String),
      Alike (DifferInHeader (CommandLine.generatorName program) (CommandLine.generatorName program'))
        (TableSource.generate (CommandLine.generatorName program) blocksText propertiesText)
        (TableSource.generate (CommandLine.generatorName program') blocksText propertiesText) := by
  intro every
  have broken : CommandLine.generatorName brokenName = "a\nb" := by decide +kernel
  have plain : CommandLine.generatorName plainName = "g" := by decide +kernel
  have alike := every brokenName plainName "\x7b\x7d" "\x7b\x7d"
  rw [broken, plain] at alike
  have accepted : (TableSource.generate "a\nb" "\x7b\x7d" "\x7b\x7d").isOk = true := by decide +kernel
  have spliced := TableSource.alike_generate "a\nb" "g" "\x7b\x7d" "\x7b\x7d"
  obtain ⟨e, failed⟩ | ⟨whole, _⟩ :=
    (spliced.iff_of_related fun _ _ spliced => spliced.differInHeader_iff).mp alike
  · rw [failed] at accepted
    cases accepted
  · revert whole
    decide +kernel

end GameTables
