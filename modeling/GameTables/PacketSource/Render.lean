import GameTables.PacketSource.Items
import GameTables.Text.Layout
import GameTables.Text.Quote

/-!
# Sources of a protocol

Four source files: the list of modules, the enumerations of directions and states with what all
packets have in common, and the packets of each direction.
-/

namespace GameTables.PacketSource

open Text (indent fits listDeclaration stack arm literal)

/-! ## The list of modules -/

def moduleList : List String :=
  ["pub mod clientbound;",
    "pub mod misc;",
    "pub mod serverbound;",
    "pub use misc::\x7bConnectionState, Packet, PacketDirection\x7d;"]

/-! ## The enumerations -/

/-- How values of an enumeration are shown: a text for each variant. -/
def showVariants (typeName : String) (texts : List (String × String)) : List String :=
  [s!"impl fmt::Display for {typeName} \x7b",
    indent 1 "fn fmt(&self, f: &mut fmt::Formatter<'_>) -> fmt::Result \x7b",
    indent 2 "f.write_str(",
    indent 3 "match self \x7b"]
  ++ texts.flatMap (fun (variant, text) => arm 4 s!"Self::{variant}" (.text (literal text)))
  ++ [indent 3 "\x7d,",
    indent 2 ")",
    indent 1 "\x7d",
    "\x7d"]

def directionEnumeration : List String :=
  ["/// Which way a packet travels",
    "#[derive(Debug, Clone, Copy, PartialEq, Eq, Hash)]",
    "pub enum PacketDirection \x7b",
    indent 1 "Serverbound,",
    indent 1 "Clientbound,",
    "\x7d"]
  ++ showVariants "PacketDirection"
    [("Serverbound", "serverbound"), ("Clientbound", "clientbound")]

def stateEnumeration (items : StateItems) : List String :=
  ["/// Protocol state of a connection",
    "#[derive(Debug, Clone, Copy, PartialEq, Eq, Hash)]",
    "#[repr(i32)]",
    "pub enum ConnectionState \x7b"]
  ++ items.variants.map (fun (variant, id) => indent 1 s!"{variant} = {id},")
  ++ ["\x7d",
    "impl ConnectionState \x7b"]
  ++ listDeclaration 1 "pub const ALL: &'static [ConnectionState] = &"
    (items.all.map ("Self::" ++ ·)) (stack 2 (items.all.map ("Self::" ++ ·)))
  ++ [indent 1 "#[inline]",
    indent 1 "pub const fn id(self) -> i32 \x7b",
    indent 2 "self as i32",
    indent 1 "\x7d",
    indent 1 "pub const fn from_id(id: i32) -> Option<Self> \x7b",
    indent 2 "match id \x7b"]
  ++ items.idArms.flatMap (fun (id, variant) =>
    arm 3 (toString id) (.call "Some" s!"Self::{variant}"))
  ++ [indent 3 "_ => None,",
    indent 2 "\x7d",
    indent 1 "\x7d",
    "\x7d"]
  ++ showVariants "ConnectionState" items.textArms

/-- What all packets have in common. -/
def packetTrait : List String :=
  ["/// Trait for all packets - provides ID, name, state, and direction",
    "pub trait Packet \x7b",
    indent 1 "/// The packet ID",
    indent 1 "const ID: i32;",
    indent 1 "/// The packet name as extracted from the game",
    indent 1 "const NAME: &'static str;",
    indent 1 "/// Whether this packet is clientbound or serverbound",
    indent 1 "const DIRECTION: PacketDirection;",
    indent 1 "/// The protocol state this packet belongs to",
    indent 1 "const STATE: ConnectionState;",
    "\x7d"]

def enumerations (items : StateItems) : List String :=
  "use std::fmt;" :: (directionEnumeration ++ stateEnumeration items ++ packetTrait)

/-! ## The packets of a direction -/

/-- An id in hexadecimal with at least two digits. -/
def idDigits (id : Nat) : String :=
  let digits := Text.hexDigits id
  String.ofList (List.replicate (2 - digits.length) '0' ++ digits)

/-- The line that opens what a packet type has, or two when it does not fit. -/
def packetHead (typeName : String) : List String :=
  let whole := indent 1 s!"impl Packet for {typeName} \x7b"
  if fits whole then [whole]
  else [indent 1 "impl Packet", indent 1 s!"for {typeName} \x7b"]

def packetType (item : PacketItem) : List String :=
  [indent 1 s!"/// Packet ID: 0x{idDigits item.id}",
    indent 1 "#[derive(Debug, Clone, Copy, Default, PartialEq, Eq, Hash)]",
    indent 1 s!"pub struct {item.typeName};"]
  ++ packetHead item.typeName
  ++ [indent 2 s!"const ID: i32 = {item.id};",
    indent 2 s!"const NAME: &'static str = {literal item.name};",
    indent 2 s!"const DIRECTION: PacketDirection = PacketDirection::{item.direction.title};",
    indent 2 s!"const STATE: ConnectionState = ConnectionState::{item.state};",
    indent 1 "\x7d"]

/-- An id and a name as they are listed. -/
def pair (id : Nat) (name : String) : String :=
  s!"({id}, {literal name})"

/-- Ids and names on lines of their own, each broken when it does not fit on one. A comma follows each;
the one behind the very last does not count. -/
def pairLines : List (Nat × String) → List String
  | [] => []
  | (id, name) :: rest =>
    let whole := indent 2 (pair id name)
    let comma := if rest.isEmpty then "" else ","
    let lines :=
      if fits (whole ++ comma) then [whole ++ ","]
      else [indent 2 "(", indent 3 s!"{id},", indent 3 s!"{literal name},", indent 2 "),"]
    lines ++ pairLines rest

def stateModule (items : StateModule) : List String :=
  [s!"pub mod {items.name} \x7b",
    indent 1 "use super::*;"]
  ++ items.packets.flatMap packetType
  ++ [indent 1 "/// Every packet of this state as (id, name)"]
  ++ listDeclaration 1 "pub static PACKETS: &[(i32, &str)] = &"
    (items.listed.map fun (id, name) => pair id name)
    (pairLines items.listed)
  ++ [indent 1 "/// Get the packet name for a given packet ID, or None if unknown",
    indent 1 "pub fn packet_name(id: i32) -> Option<&'static str> \x7b",
    indent 2 "match id \x7b"]
  ++ items.arms.flatMap (fun (id, name) => arm 3 (toString id) (.call "Some" (literal name)))
  ++ [indent 3 "_ => None,",
    indent 2 "\x7d",
    indent 1 "\x7d",
    "\x7d"]

def directionSource (items : DirectionItems) : List String :=
  ["#![allow(unused_imports)]",
    "use super::misc::\x7bConnectionState, Packet, PacketDirection\x7d;"]
  ++ items.modules.flatMap stateModule
  ++ ["/// Get the packet name for a given state and packet ID, or None if unknown",
    "pub fn packet_name(state: ConnectionState, id: i32) -> Option<&'static str> \x7b",
    indent 1 "match state \x7b"]
  ++ items.arms.flatMap (fun (variant, name) =>
    arm 2 s!"ConnectionState::{variant}" (.call s!"{name}::packet_name" "id"))
  ++ [indent 1 "\x7d",
    "\x7d"]

/-! ## Files -/

structure GeneratedFile where
  name : String
  contents : String
  deriving DecidableEq, Repr

/-- The files of a protocol, in the order they are written. -/
def files (generator : String) (protocol : Protocol) : List GeneratedFile :=
  let file (name : String) (lines : List String) : GeneratedFile :=
    ⟨name, Text.generatedFile generator lines⟩
  [file "mod.rs" moduleList,
    file "misc.rs" (enumerations (.ofProtocol protocol)),
    file "serverbound.rs" (directionSource (.ofProtocol protocol .serverbound)),
    file "clientbound.rs" (directionSource (.ofProtocol protocol .clientbound))]

/-- Generates the files from a document. -/
def generate (generator text : String) : Except PacketError (List GeneratedFile) := do
  return files generator (← Protocol.read text)

end GameTables.PacketSource
