import BusRelay.Json.Reader
import BusRelay.Json.Printer
/-!
# Identifiers

Names that the broker gives out. Each kind of name is a type of its own, and none is empty.
-/

namespace BusRelay

/-- What an identifier names. -/
inductive Naming where
  | message
  | entityPath
  deriving DecidableEq, Repr

def Naming.title : Naming → String
  | message => "MessageId"
  | entityPath => "EntityPath"

/-- A name that is not empty. -/
structure Identifier (naming : Naming) where
  text : String
  nonempty : text ≠ ""
  deriving DecidableEq

/-- Identifies a message; redelivered messages keep theirs. -/
abbrev MessageId := Identifier .message

/-- The path of a queue or subscription below the endpoint of its namespace. -/
abbrev EntityPath := Identifier .entityPath

namespace Identifier

variable {naming : Naming}

@[ext] theorem ext {a b : Identifier naming} (h : a.text = b.text) : a = b := by
  cases a; cases b; simp_all

def ofText? (s : String) : Option (Identifier naming) :=
  if h : s ≠ "" then some ⟨s, h⟩ else none

/-- Reads an identifier from a JSON text. -/
def decode (text : Utf8.Bytes) : Except Json.Fault (Identifier naming) :=
  Json.decodeWith (fun tree => do
    match ofText? (← tree.asText) with
    | some a => return a
    | none => throw ⟨.refused (naming.title ++ " must not be empty"), none⟩) text

/-- The identifier as a JSON text. -/
def encode (a : Identifier naming) : String := (Json.string a.text).text

end Identifier

end BusRelay
