import GameTables.Proofs.PacketSource.Reader
import GameTables.Proofs.Protocol.Acceptance
import GameTables.Proofs.Traversal

/-!
# The sources of a protocol read back

The items of a protocol are read back from the sources that were rendered from them, if every name in them
is an identifier.
-/

namespace GameTables.PacketSource

open Reading
open Text (indent joinLines)

/-! ## The enumerations -/

/-- Every name of the enumeration is an identifier. -/
structure StatesNamed (items : StateItems) : Prop where
  variants : ∀ variant ∈ items.variants, Name.isIdentifier variant.1
  all : ∀ variant ∈ items.all, Name.isIdentifier variant
  idArms : ∀ arm ∈ items.idArms, Name.isIdentifier arm.2
  textArms : ∀ arm ∈ items.textArms, Name.isIdentifier arm.1

theorem inline_self {variant : String} (identifier : Name.isIdentifier variant) :
    Inline (do expect "Self::"; name) ("Self::" ++ variant) variant :=
  (inline_name identifier).behind (by decide)

theorem recovers_variant {variant : String × Nat} (identifier : Name.isIdentifier variant.1) :
    Recovers readVariant [indent 1 s!"{variant.1} = {variant.2},"] variant := by
  obtain ⟨spelled, named, takesName⟩ := inline_name identifier
  obtain ⟨digits, numbered, takesNumber⟩ := inline_number variant.2
  have equals : Lexes " = " [.mark '='] := rfl
  have equals_read : Lexes "=" [.mark '='] := rfl
  have comma : Lexes "," [.mark ','] := rfl
  have line := named (apart_append (by decide) _) (equals.append (numbered (by decide) comma))
  have takes : Takes readVariant (spelled ++ ([.mark '='] ++ (digits ++ ([.mark ','] ++ [])))) variant :=
    takesName.bind (parts_mark (by decide) _) ((takes_expect equals_read).bind
      (takesNumber.bind (parts_mark (by decide) _) ((takes_expect comma).bind (takes_pure variant))))
  show Recovers readVariant [indent 1 (variant.1 ++ " = " ++ toString variant.2 ++ ",")] variant
  rw [String.append_assoc, String.append_assoc]
  exact ⟨_, lexes_line (line.indent 1), by simpa using takes⟩

theorem recovers_texts {texts : List (String × String)}
    (named : ∀ arm ∈ texts, Name.isIdentifier arm.1) :
    Recovers readTexts (showVariants "ConnectionState" texts) texts := by
  simp only [showVariants, List.append_assoc]
  refine (recovers_lines (by decide +kernel)).bind ?_
  refine Recovers.many_before [.mark '\x7d'] (by decide +kernel) (fun _ => rfl) (fun text here => ?_) ?_
  · exact recovers_arm 4 (inline_self (named text here)) (yields_literal text.2)
  · exact recovers_end (by decide +kernel) texts

/-- The lookup of a variant yields it behind the name of its type. -/
theorem yields_some_self {variant : String} (identifier : Name.isIdentifier variant) :
    Yields (call (expect "Some(") (do expect "Self::"; name) fun _ state => state)
      (.call "Some" ("Self::" ++ variant)) variant := by
  have some : Lexes "Some(" [.word "Some".toList, .mark '('] := rfl
  exact yields_call some (takes_expect some) (inline_self identifier) fun _ => rfl

theorem recovers_stateEnumeration {items : StateItems} (named : StatesNamed items) :
    Recovers readStateEnumeration (stateEnumeration items) items := by
  unfold stateEnumeration
  rw [@List.map_eq_flatMap _ _ _ items.variants]
  simp only [List.append_assoc]
  refine (recovers_lines (by decide +kernel)).bind ?_
  refine Recovers.many_before [.mark '\x7d'] (by decide +kernel) (fun _ => rfl)
    (fun variant here => ?_) ?_
  · exact recovers_variant (named.variants variant here)
  refine (recovers_lines (by decide +kernel)).bind ?_
  have all : List.Forall₂ (Inline (do expect "Self::"; name)) (items.all.map ("Self::" ++ ·))
      items.all :=
    List.forall₂_map_left_iff.mpr
      (List.forall₂_same.mpr fun variant here => inline_self (named.all variant here))
  refine (recovers_declaration (by decide +kernel) (fun _ => rfl) all (elements_stack 2 all)).bind ?_
  refine (recovers_lines (by decide +kernel)).bind ?_
  refine Recovers.many_before [.word "_".toList] (by decide +kernel) (fun _ => rfl)
    (fun arm here => ?_) ?_
  · exact recovers_arm 3 (inline_number arm.1) (yields_some_self (named.idArms arm here))
  refine (recovers_lines (by decide +kernel)).bind ?_
  rw [← List.append_nil (showVariants _ _)]
  exact (recovers_texts named.textArms).bind (recovers_pure items)

theorem recovers_enumerations {items : StateItems} (named : StatesNamed items) :
    Recovers readEnumerations (enumerations items) items := by
  simp only [enumerations]
  refine (recovers_expect (by decide +kernel)).cons ?_
  rw [List.append_assoc]
  refine (recovers_lines (by decide +kernel)).bind ?_
  refine (recovers_stateEnumeration named).bind ?_
  exact recovers_end (by decide +kernel) items

/-! ## The packets of a direction -/

/-- Every name of a packet type is an identifier. -/
structure PacketNamed (item : PacketItem) : Prop where
  typeName : Name.isIdentifier item.typeName
  state : Name.isIdentifier item.state

structure ModuleNamed (items : StateModule) : Prop where
  name : Name.isIdentifier items.name
  packets : ∀ item ∈ items.packets, PacketNamed item

structure DirectionNamed (items : DirectionItems) : Prop where
  modules : ∀ module ∈ items.modules, ModuleNamed module
  arms : ∀ arm ∈ items.arms, Name.isIdentifier arm.1 ∧ Name.isIdentifier arm.2

theorem inline_direction (direction : Direction) : Inline readDirection direction.title direction := by
  have identifier : Name.isIdentifier direction.title := by
    cases direction <;> decide +kernel
  obtain ⟨tokens, reads, takes⟩ := inline_name identifier
  refine ⟨tokens, reads, fun rest parts => ?_⟩
  show (name _).bind _ = _
  rw [takes rest parts]
  cases direction <;> rfl

theorem recovers_packetHead {typeName : String} (identifier : Name.isIdentifier typeName) :
    Recovers (within "impl Packet for " name "\x7b") (packetHead typeName) typeName := by
  have whole : Recovers (within "impl Packet for " name "\x7b")
      ["impl Packet for " ++ typeName ++ " \x7b"] typeName :=
    recovers_within (by decide) (inline_name identifier) (by decide)
  unfold packetHead
  simp only
  split
  · exact whole.indent 1
  · obtain ⟨tokens, reads, takes⟩ := inline_name identifier
    have front : Lexes (joinLines [indent 1 "impl Packet"])
        [.word "impl".toList, .word "Packet".toList] := rfl
    have before : Lexes "for " [.word "for".toList] := rfl
    have behind : Lexes " \x7b" [.mark '\x7b'] := rfl
    have begun : Lexes "impl Packet for "
        ([.word "impl".toList, .word "Packet".toList] ++ [.word "for".toList]) := rfl
    have last := before.append (reads (by decide) behind)
    rw [← String.append_assoc] at last
    have taken := takes_within begun takes (show Lexes "\x7b" _ from behind) (parts_mark (by decide) _)
    have lines := lexes_lines front (lexes_line (last.indent 1))
    exact ⟨_, lines, by simpa using taken⟩

theorem toList_idLine (id : Nat) : (s!"/// Packet ID: 0x{idDigits id}").toList =
    "/// Packet ID: 0x".toList ++ (idDigits id).toList := String.toList_append

theorem short_idDigits (id : Nat) : '\n' ∉ (idDigits id).toList := by
  have digits : '\n' ∉ Nat.toDigits 16 id := by
    intro here
    have letter := isWordChar_digits (by decide) (by decide) id '\n' here
    contradiction
  simp [idDigits, Text.hexDigits, digits]

theorem recovers_packet {item : PacketItem} (named : PacketNamed item) :
    Recovers readPacket (packetType item) item := by
  simp only [packetType, List.append_assoc]
  refine Recovers.comment 1 ?_ ?_ ?_
  · rw [toList_idLine]
    rfl
  · rw [toList_idLine]
    simp [short_idDigits item.id]
  refine (recovers_indented 1 (by decide +kernel)).cons ?_
  refine ((recovers_within (by decide) (inline_name named.typeName) (by decide)).indent 1).cons ?_
  refine (recovers_packetHead named.typeName).bind ?_
  refine (recovers_guard rfl).bind ?_
  refine ((recovers_within (by decide) (inline_number item.id) (by decide)).indent 2).cons ?_
  refine ((recovers_within (by decide) (inline_literal item.name) (by decide)).indent 2).cons ?_
  refine ((recovers_within (by decide) (inline_direction item.direction) (by decide)).indent 2).cons ?_
  refine ((recovers_within (by decide) (inline_name named.state) (by decide)).indent 2).cons ?_
  exact recovers_end (by decide) item

/-- A pair is read whether it stands on one line or on four. -/
theorem takes_pair (id : Nat) (text : String) :
    ∃ digits, ReadsAs (toString id) digits ∧
      ∀ closed, closed = [.mark ')'] ∨ closed = [.mark ',', .mark ')'] →
        TakesBefore readPair
          ([.mark '('] ++ (digits ++ [.mark ',']) ++ ([.text text.toList] ++ closed)) (id, text) := by
  obtain ⟨digits, numbered, takes⟩ := inline_number id
  have bracket : Lexes "(" [.mark '('] := rfl
  have comma : Lexes "," [.mark ','] := rfl
  have opening : Takes (do expect "("; let id ← one decimal?; expect ","; return id)
      ([.mark '('] ++ (digits ++ ([.mark ','] ++ []))) id :=
    (takes_expect bracket).bind
      (takes.bind (parts_mark (by decide) _) ((takes_expect comma).bind (takes_pure id)))
  have content : TakesBefore (one text?) [.text text.toList] text :=
    (takes_one (by simp [text?])).before
  exact ⟨digits, numbered, fun closed ends => (takes_call opening content ends).before⟩

theorem inline_pair (id : Nat) (text : String) : Inline readPair (pair id text) (id, text) := by
  obtain ⟨digits, numbered, takes⟩ := takes_pair id text
  have bracket : Lexes "(" [.mark '('] := rfl
  have comma : Lexes ", " [.mark ','] := rfl
  have closed : Lexes ")" [.mark ')'] := rfl
  have whole := bracket.append
    (numbered (apart_append (by decide) _) (comma.append ((lexes_literal text).append closed)))
  refine ⟨_, Lexes.readsAs ?_, takes _ (.inl rfl)⟩
  show Lexes ("(" ++ toString id ++ ", " ++ Text.literal text ++ ")") _
  simpa [String.append_assoc] using whole

/-- The lines of one pair. -/
theorem lexes_pairEntry (id : Nat) (text comma : String) :
    ∃ phrase, Lexes (joinLines
        (if Text.fits (indent 2 (pair id text) ++ comma) then [indent 2 (pair id text) ++ ","]
        else [indent 2 "(", indent 3 s!"{id},", indent 3 s!"{Text.literal text},", indent 2 "),"]))
        (phrase ++ [.mark ',']) ∧ TakesBefore readPair phrase (id, text) := by
  split
  · obtain ⟨tokens, reads, takes⟩ := inline_pair id text
    have line := reads.phrase.comma.indent 2
    refine ⟨tokens, lexes_line ?_, takes⟩
    simpa [indent, String.append_assoc] using line
  · obtain ⟨digits, numbered, takes⟩ := takes_pair id text
    have bracket : Lexes "(" [.mark '('] := rfl
    have comma : Lexes "," [.mark ','] := rfl
    have closed : Lexes ")," [.mark ')', .mark ','] := rfl
    have first : Lexes (joinLines [indent 3 s!"{id},"]) (digits ++ [.mark ',']) :=
      lexes_line ((numbered (by decide) comma).indent 3)
    have second : Lexes (joinLines [indent 3 s!"{Text.literal text},"])
        ([.text text.toList] ++ [.mark ',']) :=
      lexes_line (((lexes_literal text).append comma).indent 3)
    have lines := lexes_lines (lexes_line (bracket.indent 2))
      (lexes_lines first (lexes_lines second (lexes_line (closed.indent 2))))
    refine ⟨_, ?_, takes _ (.inr rfl)⟩
    simpa using lines

theorem elements_pairLines (listed : List (Nat × String)) :
    ∃ tokens, Elements readPair tokens listed ∧ Lexes (joinLines (pairLines listed)) tokens := by
  induction listed with
  | nil => exact ⟨[], elements_nil, .empty⟩
  | cons entry rest ih => exact Elements.lines (lexes_pairEntry entry.1 entry.2 _) ih

theorem yields_some_text (text : String) :
    Yields (call (expect "Some(") (one text?) fun _ text => text)
      (.call "Some" (Text.literal text)) text := by
  have some : Lexes "Some(" [.word "Some".toList, .mark '('] := rfl
  exact yields_call some (takes_expect some) (inline_literal text) fun _ => rfl

theorem recovers_stateModule {items : StateModule} (named : ModuleNamed items) :
    Recovers readStateModule (stateModule items) items := by
  simp only [stateModule, List.append_assoc]
  refine (recovers_within (by decide) (inline_name named.name) (by decide)).cons ?_
  refine (recovers_indented 1 (by decide +kernel)).cons ?_
  refine Recovers.many (fun item here => recovers_packet (named.packets item here)) ?_ ?_
  · intro _ read
    exact stops_of_lines [.word "pub".toList] (by decide +kernel) (fun _ => rfl)
      (isSome_of_bind (isSome_of_bind read))
  refine Recovers.comment 1 (by decide) (by decide) ?_
  have pairs : List.Forall₂ (Inline readPair) (items.listed.map fun entry => pair entry.1 entry.2)
      items.listed :=
    List.forall₂_map_left_iff.mpr (List.forall₂_same.mpr fun entry _ => inline_pair entry.1 entry.2)
  refine (recovers_declaration (by decide +kernel) (fun _ => rfl) pairs
    (elements_pairLines items.listed)).bind ?_
  refine Recovers.comment 1 (by decide) (by decide) ?_
  refine Recovers.bind (recovers_lines (by decide +kernel)) ?_
  refine Recovers.many_before [.word "_".toList] (by decide +kernel) (fun _ => rfl)
    (fun entry here => ?_) ?_
  · exact recovers_arm 3 (inline_number entry.1) (yields_some_text entry.2)
  exact recovers_end (by decide +kernel) items

/-- The lookup by state asks the module that is named. -/
theorem yields_ask {module : String} (identifier : Name.isIdentifier module) :
    Yields
      (call (do let module ← name; expect "::packet_name("; return module) (expect "id ")
        fun module _ => module)
      (.call s!"{module}::packet_name" "id") module := by
  obtain ⟨tokens, reads, takes⟩ := inline_name identifier
  have path : Lexes "::packet_name(" [.mark ':', .mark ':', .word "packet_name".toList, .mark '('] := rfl
  have begun := reads (by decide) path
  have opening : Takes (do let module ← name; expect "::packet_name("; return module) _ module :=
    takes.bind (parts_mark (by decide) _) ((takes_expect path).bind (takes_pure module))
  have asked : Inline (expect "id ") "id" () := by
    have argument : Lexes "id " [.word "id".toList] := rfl
    have letters : "id".toList.all isWordChar = true := rfl
    refine ⟨_, ?_, (takes_expect argument).before⟩
    exact fun apart ended => lexes_word (by decide) (List.all_eq_true.mp letters) apart ended
  refine yields_call ?_ opening asked fun rest => ?_
  · show Lexes (module ++ "::packet_name" ++ "(") _
    rw [String.append_assoc]
    exact begun
  · exact bind_of_none (name_of_parts (parts_mark (by decide) rest))

theorem recovers_directionSource {items : DirectionItems} (named : DirectionNamed items) :
    Recovers readDirectionSource (directionSource items) items := by
  simp only [directionSource, List.append_assoc]
  refine (recovers_lines (by decide +kernel)).bind ?_
  refine Recovers.many_before [.word "pub".toList, .word "fn".toList] (by decide +kernel) (fun _ => rfl)
    (fun module here => recovers_stateModule (named.modules module here)) ?_
  refine (recovers_lines (by decide +kernel)).bind ?_
  refine Recovers.many_before [.mark '\x7d'] (by decide +kernel) (fun _ => rfl) (fun entry here => ?_) ?_
  · have identifiers := named.arms entry here
    have pattern : Inline (do expect "ConnectionState::"; name) s!"ConnectionState::{entry.1}" entry.1 :=
      (inline_name identifiers.1).behind (by decide)
    exact recovers_arm 2 pattern (yields_ask identifiers.2)
  exact recovers_end (by decide +kernel) items

/-! ## The files -/

theorem holds_of_recovers {α : Type} (generator name : String) {reader : Reader α} {lines : List String}
    {value : α} (recovers : Recovers reader lines value) :
    Holds generator name reader ⟨name, Text.generatedFile generator lines⟩ value := by
  obtain ⟨tokens, lexed, taken⟩ := recovers.all_read
  exact ⟨rfl, joinLines lines, rfl, by simp [readWhole, lexed, taken]⟩

/-- A file holds at most one value. -/
theorem Holds.unique {α : Type} {generator name : String} {reader : Reader α} {file : GeneratedFile}
    {first second : α} (holds : Holds generator name reader file first)
    (also : Holds generator name reader file second) : first = second := by
  obtain ⟨_, source, contents, read⟩ := holds
  obtain ⟨_, source', contents', read'⟩ := also
  have same : source = source' := (String.append_right_inj _).mp (contents.symm.trans contents')
  subst same
  exact Option.some.inj (read.symm.trans read')

/-- The files of a protocol are read in one way only. -/
theorem FilesHold.unique {generator : String} {files : List GeneratedFile} {first second : Sources}
    (holds : FilesHold generator files first) (also : FilesHold generator files second) :
    first = second := by
  obtain ⟨_, _, _, _, same, _, states, serverbound, clientbound⟩ := holds
  obtain ⟨_, _, _, _, same', _, states', serverbound', clientbound'⟩ := also
  obtain ⟨rfl, rfl, rfl, rfl, _⟩ : _ ∧ _ ∧ _ ∧ _ ∧ _ := by
    simpa only [List.cons.injEq] using same.symm.trans same'
  cases first
  cases second
  rw [Sources.mk.injEq]
  exact ⟨states.unique states', serverbound.unique serverbound', clientbound.unique clientbound'⟩

/-- What the sources of a protocol say. -/
def Sources.ofProtocol (protocol : Protocol) : Sources where
  states := .ofProtocol protocol
  serverbound := .ofProtocol protocol .serverbound
  clientbound := .ofProtocol protocol .clientbound

/-- The protocol of a document without collisions. -/
abbrev protocolOf (document : Document ConnectionDefinition) : Protocol :=
  ⟨document.entries.map Protocol.state⟩

theorem direction_ofProtocol (protocol : Protocol) (direction : Direction) :
    (Sources.ofProtocol protocol).direction direction = .ofProtocol protocol direction := by
  cases direction <;> rfl

variable {document : Document ConnectionDefinition}

theorem variants_ofProtocol : (StateItems.ofProtocol (protocolOf document)).variants.map Prod.fst =
    document.entries.map (Name.camelCase ·.1) := by
  simp only [StateItems.ofProtocol, List.map_map]
  rfl

theorem modules_ofProtocol (direction : Direction) :
    (DirectionItems.ofProtocol (protocolOf document) direction).modules =
      document.entries.map fun entry => .ofState direction (Protocol.state entry) := by
  simp only [DirectionItems.ofProtocol, List.map_map]
  rfl

theorem statesNamed_of_collisionFree (free : Protocol.CollisionFree document) :
    StatesNamed (.ofProtocol (protocolOf document)) := by
  have named : ∀ state ∈ (protocolOf document).states, Name.isIdentifier state.variant :=
    List.forall_mem_map.mpr fun entry here => (free.states entry here).variant
  exact ⟨List.forall_mem_map.mpr named, List.forall_mem_map.mpr named, List.forall_mem_map.mpr named,
    List.forall_mem_map.mpr named⟩

theorem directionNamed_of_collisionFree (free : Protocol.CollisionFree document) (direction : Direction) :
    DirectionNamed (.ofProtocol (protocolOf document) direction) where
  modules := by
    refine List.forall_mem_map.mpr (List.forall_mem_map.mpr fun entry here => ?_)
    have allowed := free.states entry here
    refine ⟨allowed.lower, ?_⟩
    simp only [StateModule.ofState, Protocol.packets_state]
    refine List.forall_mem_map.mpr (List.forall_mem_map.mpr fun definition there => ?_)
    exact ⟨(allowed.packets direction).names definition there, allowed.variant⟩
  arms := List.forall_mem_map.mpr (List.forall_mem_map.mpr fun entry here =>
    ⟨(free.states entry here).variant, (free.states entry here).lower⟩)

/-- A protocol that is read is that of a document without collisions. -/
theorem exists_of_read {text : String} {protocol : Protocol} (accepted : Protocol.read text = .ok protocol) :
    ∃ document, ConnectionDefinition.readDocument text = .ok document ∧
      Protocol.CollisionFree document ∧ protocolOf document = protocol := by
  obtain ⟨document, parsed, checked⟩ := bind_eq_ok_iff.mp accepted
  rw [Protocol.ofDocument_eq] at checked
  obtain ⟨none, same⟩ := firstFault_eq_ok_iff.mp checked
  exact ⟨document, parsed, Protocol.faults_eq_nil_iff.mp none, same⟩

theorem filesHold_of_collisionFree (generator : String) (free : Protocol.CollisionFree document) :
    FilesHold generator (files generator (protocolOf document)) (.ofProtocol (protocolOf document)) := by
  have directionSource (direction : Direction) :=
    recovers_directionSource (directionNamed_of_collisionFree free direction)
  refine ⟨_, _, _, _, rfl, ?_, ?_, ?_, ?_⟩
  · exact holds_of_recovers generator _ (recovers_lines (by decide +kernel))
  · exact holds_of_recovers generator _ (recovers_enumerations (statesNamed_of_collisionFree free))
  · exact holds_of_recovers generator _ (directionSource .serverbound)
  · exact holds_of_recovers generator _ (directionSource .clientbound)

/-- What is made of a text is the sources of the document that the text reads as. -/
theorem exists_of_generate {generator text : String} {made : List GeneratedFile}
    (generated : generate generator text = .ok made) :
    ∃ document, ConnectionDefinition.readDocument text = .ok document ∧
      Protocol.CollisionFree document ∧ FilesHold generator made (.ofProtocol (protocolOf document)) := by
  obtain ⟨protocol, accepted, same⟩ := bind_eq_ok_iff.mp generated
  cases same
  obtain ⟨document, parsed, free, rfl⟩ := exists_of_read accepted
  exact ⟨document, parsed, free, filesHold_of_collisionFree generator free⟩

end GameTables.PacketSource
