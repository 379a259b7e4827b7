import GameTables.PacketSource.Render
import GameTables.Proofs.Reading.Arms

/-!
# Reading the sources of a protocol

Readers of the generated sources that know which declarations there are and in which order, and what the
items in them are. Each item is read where it stands: nothing is taken over from another item that says
the same.
-/

namespace GameTables.PacketSource

open Reading

variable {α : Type}

/-! ## The enumerations -/

/-- Reads how the states are shown. -/
def readTexts : Reader (List (String × String)) := do
  expectLines ["impl fmt::Display for ConnectionState \x7b",
    "fn fmt(&self, f: &mut fmt::Formatter<'_>) -> fmt::Result \x7b",
    "f.write_str(",
    "match self \x7b"]
  let texts ← many (arm (do expect "Self::"; name) (one text?))
  expectLines ["\x7d,", ")", "\x7d", "\x7d"]
  return texts

/-- Reads a variant and its number. -/
def readVariant : Reader (String × Nat) := do
  let variant ← name
  expect "="
  let id ← one decimal?
  expect ","
  return (variant, id)

def readStateEnumeration : Reader StateItems := do
  expectLines ["#[derive(Debug, Clone, Copy, PartialEq, Eq, Hash)]",
    "#[repr(i32)]",
    "pub enum ConnectionState \x7b"]
  let variants ← many readVariant
  expectLines ["\x7d", "impl ConnectionState \x7b"]
  let all ← declaration "pub const ALL: &'static [ConnectionState] = &" (do expect "Self::"; name)
  expectLines ["#[inline]",
    "pub const fn id(self) -> i32 \x7b self as i32 \x7d",
    "pub const fn from_id(id: i32) -> Option<Self> \x7b",
    "match id \x7b"]
  let idArms ← many (arm (one decimal?)
    (call (expect "Some(") (do expect "Self::"; name) fun _ state => state))
  expectLines ["_ => None,", "\x7d", "\x7d", "\x7d"]
  let textArms ← readTexts
  return ⟨variants, all, idArms, textArms⟩

/-- Reads the enumerations. Those of the directions and of what packets have in common are always the
same. -/
def readEnumerations : Reader StateItems := do
  expect "use std::fmt;"
  expectLines directionEnumeration
  let items ← readStateEnumeration
  expectLines packetTrait
  return items

/-! ## The packets of a direction -/

/-- Reads a direction as its variant is written. -/
def readDirection : Reader Direction := do
  let title ← name
  if title = Direction.serverbound.title then return .serverbound
  else if title = Direction.clientbound.title then return .clientbound
  else failure

/-- Reads the type of a packet and its constants, which belong to that type. -/
def readPacket : Reader PacketItem := do
  expect "#[derive(Debug, Clone, Copy, Default, PartialEq, Eq, Hash)]"
  let typeName ← within "pub struct " name ";"
  let owner ← within "impl Packet for " name "\x7b"
  guard (owner = typeName)
  let id ← within "const ID: i32 =" (one decimal?) ";"
  let text ← within "const NAME: &'static str =" (one text?) ";"
  let direction ← within "const DIRECTION: PacketDirection = PacketDirection::" readDirection ";"
  let state ← within "const STATE: ConnectionState = ConnectionState::" name ";"
  expectLines ["\x7d"]
  return ⟨typeName, id, text, direction, state⟩

/-- Reads an id and a name as they are listed. -/
def readPair : Reader (Nat × String) :=
  call (do expect "("; let id ← one decimal?; expect ","; return id) (one text?) Prod.mk

def readStateModule : Reader StateModule := do
  let module ← within "pub mod " name "\x7b"
  expect "use super::*;"
  let packets ← many readPacket
  let listed ← declaration "pub static PACKETS: &[(i32, &str)] = &" readPair
  expectLines ["pub fn packet_name(id: i32) -> Option<&'static str> \x7b",
    "match id \x7b"]
  let arms ← many (arm (one decimal?) (call (expect "Some(") (one text?) fun _ text => text))
  expectLines ["_ => None,", "\x7d", "\x7d", "\x7d"]
  return ⟨module, packets, listed, arms⟩

def readDirectionSource : Reader DirectionItems := do
  expectLines ["#![allow(unused_imports)]",
    "use super::misc::\x7bConnectionState, Packet, PacketDirection\x7d;"]
  let modules ← many readStateModule
  expectLines ["pub fn packet_name(state: ConnectionState, id: i32) -> Option<&'static str> \x7b",
    "match state \x7b"]
  let arms ← many (arm (do expect "ConnectionState::"; name)
    (call (do let module ← name; expect "::packet_name("; return module) (expect "id ")
      fun module _ => module))
  expectLines ["\x7d", "\x7d"]
  return ⟨modules, arms⟩

/-! ## Files -/

/-- Reads a whole source. Nothing may stand behind it. -/
def readWhole (reader : Reader α) (source : String) : Option α := do
  let tokens ← tokens? source
  let (value, rest) ← reader tokens
  if rest.isEmpty then some value else none

/-- A file with a name holds the line of its generator and a source from which a value is read. -/
def Holds (generator name : String) (reader : Reader α) (file : GeneratedFile) (value : α) : Prop :=
  file.name = name ∧ ∃ source,
    file.contents = "// Automatically generated by " ++ generator ++ "\n\n" ++ source ∧
      readWhole reader source = some value

/-- What the sources of a protocol hold. -/
structure Sources where
  states : StateItems
  serverbound : DirectionItems
  clientbound : DirectionItems
  deriving DecidableEq, Repr

def Sources.direction (sources : Sources) : Direction → DirectionItems
  | .serverbound => sources.serverbound
  | .clientbound => sources.clientbound

/-- The four files of a protocol and what is read from them. -/
def FilesHold (generator : String) (files : List GeneratedFile) (sources : Sources) : Prop :=
  ∃ list states serverbound clientbound, files = [list, states, serverbound, clientbound] ∧
    Holds generator "mod.rs" (expectLines moduleList) list () ∧
    Holds generator "misc.rs" readEnumerations states sources.states ∧
    Holds generator "serverbound.rs" readDirectionSource serverbound sources.serverbound ∧
    Holds generator "clientbound.rs" readDirectionSource clientbound sources.clientbound

end GameTables.PacketSource
