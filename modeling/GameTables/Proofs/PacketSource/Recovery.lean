import GameTables.Proofs.PacketSource.RoundTrip

/-!
# The protocol behind its sources

The sources of a protocol give it back, but for the names that the document has for the states: only the
names derived from them are written. Protocols with the same sources differ in nothing else.
-/

namespace GameTables

/-- A state apart from the name that the document has for it. -/
structure StateOutline where
  lower : String
  variant : String
  id : Nat
  serverbound : List Packet
  clientbound : List Packet
  deriving DecidableEq, Repr

def ConnectionState.outline (state : ConnectionState) : StateOutline :=
  ⟨state.lower, state.variant, state.id, state.serverbound, state.clientbound⟩

def Protocol.outlines (protocol : Protocol) : List StateOutline :=
  protocol.states.map (·.outline)

/-! ## Reading states off the items -/

/-- The packet that a type stands for. -/
def PacketItem.packet (item : PacketItem) : Packet := ⟨item.name, item.typeName, item.id⟩

def StateModule.stands (module : StateModule) : List Packet := module.packets.map (·.packet)

namespace PacketSource

/-- The states that sources are about: each variant with its number and its text, and with the packets of
its module in both directions. -/
def Sources.outlines (sources : Sources) : List StateOutline :=
  let named := sources.states.variants.zip sources.states.textArms
  let modules := sources.serverbound.modules.zip sources.clientbound.modules
  (named.zip modules).map fun ((variant, text), serverbound, clientbound) =>
    ⟨text.2, variant.1, variant.2, serverbound.stands, clientbound.stands⟩

theorem stands_ofState (direction : Direction) (state : ConnectionState) :
    (StateModule.ofState direction state).stands = state.packets direction := by
  unfold StateModule.stands StateModule.ofState
  rw [List.map_map]
  exact List.map_id _

theorem outlines_ofProtocol (protocol : Protocol) :
    (Sources.ofProtocol protocol).outlines = protocol.outlines := by
  simp only [Sources.outlines, Sources.ofProtocol, StateItems.ofProtocol, DirectionItems.ofProtocol,
    List.zip_map', List.map_map, Protocol.outlines]
  refine List.map_congr_left fun state _ => ?_
  simp only [Function.comp_apply, stands_ofState]
  rfl

/-! ## Reading the files -/

/-- What stands behind the line of the generator and the empty line in a file. -/
def sourceOf (generator contents : String) : Option String :=
  let header := ("// Automatically generated by " ++ generator ++ "\n\n").toList
  if header.isPrefixOf contents.toList then some (String.ofList (contents.toList.drop header.length))
  else none

/-- Reads the file with a name. -/
def readFile {α : Type} (generator name : String) (reader : Reading.Reader α)
    (files : List GeneratedFile) : Option α := do
  let file ← files.find? (·.name == name)
  readWhole reader (← sourceOf generator file.contents)

/-- Reads the states off the files of a generator. -/
def recover (generator : String) (files : List GeneratedFile) : Option (List StateOutline) := do
  let states ← readFile generator "misc.rs" readEnumerations files
  let serverbound ← readFile generator "serverbound.rs" readDirectionSource files
  let clientbound ← readFile generator "clientbound.rs" readDirectionSource files
  return (Sources.mk states serverbound clientbound).outlines

theorem sourceOf_append (generator source : String) :
    sourceOf generator ("// Automatically generated by " ++ generator ++ "\n\n" ++ source) = some source := by
  simp [sourceOf]

theorem readFile_of_holds {α : Type} {generator name : String} {reader : Reading.Reader α}
    (files : List GeneratedFile) {file : GeneratedFile} {value : α}
    (found : files.find? (·.name == name) = some file) (holds : Holds generator name reader file value) :
    readFile generator name reader files = some value := by
  obtain ⟨_, source, contents, read⟩ := holds
  simp [readFile, found, contents, sourceOf_append, read]

theorem recover_of_filesHold {generator : String} {files : List GeneratedFile} {sources : Sources}
    (holds : FilesHold generator files sources) : recover generator files = some sources.outlines := by
  obtain ⟨list, states, serverbound, clientbound, rfl, listed, enumerated, toServer, toClient⟩ := holds
  have states_read := readFile_of_holds [list, states, serverbound, clientbound]
    (by simp [listed.1, enumerated.1]) enumerated
  have serverbound_read := readFile_of_holds [list, states, serverbound, clientbound]
    (by simp [listed.1, enumerated.1, toServer.1]) toServer
  have clientbound_read := readFile_of_holds [list, states, serverbound, clientbound]
    (by simp [listed.1, enumerated.1, toServer.1, toClient.1]) toClient
  simp only [recover, states_read, serverbound_read, clientbound_read]
  rfl

theorem recover_of_generate {generator text : String} {made : List GeneratedFile}
    (generated : generate generator text = .ok made) :
    ∃ protocol, Protocol.read text = .ok protocol ∧ recover generator made = some protocol.outlines := by
  obtain ⟨protocol, accepted, same⟩ := bind_eq_ok_iff.mp generated
  cases same
  obtain ⟨document, _, free, rfl⟩ := exists_of_read accepted
  have recovered := recover_of_filesHold (filesHold_of_collisionFree generator free)
  rw [outlines_ofProtocol] at recovered
  exact ⟨_, accepted, recovered⟩

/-- The states of a protocol are read back from its sources, but for their names in the document. Two
documents with the same sources have the same states but for these names. -/
theorem recover_generate (generator : String) :
    (∀ text made, generate generator text = .ok made → ∃ protocol, Protocol.read text = .ok protocol ∧
      recover generator made = some protocol.outlines) ∧
    ∀ first second made, generate generator first = .ok made → generate generator second = .ok made →
      ∃ protocol protocol', Protocol.read first = .ok protocol ∧ Protocol.read second = .ok protocol' ∧
        protocol.outlines = protocol'.outlines := by
  refine ⟨fun text made => recover_of_generate, ?_⟩
  intro first second made generated generated'
  obtain ⟨protocol, accepted, recovered⟩ := recover_of_generate generated
  obtain ⟨protocol', accepted', recovered'⟩ := recover_of_generate generated'
  exact ⟨protocol, protocol', accepted, accepted', Option.some.inj (recovered.symm.trans recovered')⟩

/-- A document of a state with a packet in each direction. -/
def sampleDocument : String :=
  "\x7b\"PLAY\":\x7b\"id\":7,\"SERVERBOUND\":[\x7b\"name\":\"Chat\",\"id\":3\x7d],\"CLIENTBOUND\":[" ++
    "\x7b\"name\":\"ClientboundLogin\",\"id\":1\x7d]\x7d\x7d"

/-- The packets of an accepted document are read from its sources. -/
theorem recover_generate_sample :
    ∃ made, generate "g" sampleDocument = .ok made ∧
      recover "g" made =
        some [⟨"play", "Play", 7, [⟨"Chat", "Chat", 3⟩], [⟨"ClientboundLogin", "Login", 1⟩]⟩] := by
  have outlined : (Protocol.read sampleDocument).toOption.map (·.outlines) =
      some [⟨"play", "Play", 7, [⟨"Chat", "Chat", 3⟩], [⟨"ClientboundLogin", "Login", 1⟩]⟩] := by
    decide +kernel
  cases read : Protocol.read sampleDocument with
  | error e =>
    rw [read] at outlined
    cases outlined
  | ok protocol =>
    have generated : generate "g" sampleDocument = .ok (files "g" protocol) :=
      bind_eq_ok_iff.mpr ⟨protocol, read, rfl⟩
    obtain ⟨protocol', same, recovered⟩ := (recover_generate "g").1 _ _ generated
    cases read.symm.trans same
    rw [read] at outlined
    exact ⟨_, generated, recovered.trans outlined⟩

end PacketSource

end GameTables
