import RegistryAuth.Number.Reading

/-!
# What can be wrong with a YAML document

A document is read in stages: its characters, the tokens they form, the structure of
the tokens, the nodes with their anchors, and the values of the nodes.  `Yaml.Fault`
says in which stage a document fails and why.  Texts of numbers and times that have the
form of one and no value are failures of their own kind (`ScalarFault`).
-/

namespace RegistryAuth
namespace Yaml

/-- Why characters form no token. -/
inductive TokenFault where
  | keyWithoutColon
  | entryPlace
  | keyPlace
  | valuePlace
  | badStart
  | directive
  | anchorName
  | tagForm
  | uriEscape
  | blockHeader
  | openQuoted
  | documentMark
  | escape
  deriving Repr, DecidableEq

/-- Why tokens form no document. -/
inductive StructureFault where
  | noDocumentStart
  | duplicateDirective
  | version
  | duplicateHandle
  | undefinedHandle
  | noContent
  | openBlock
  | openFlowSequence
  | openFlowMapping
  deriving Repr, DecidableEq

/-- Why the nodes of a document do not fit together. -/
inductive NodeFault where
  | undefinedAlias
  | duplicateAnchor
  | secondDocument
  deriving Repr, DecidableEq

/-- Why a node has no value. -/
inductive ValueFault where
  | notScalar
  | notSequence
  | notMapping
  | unhashableKey
  | mergeSource
  | singlePair
  | base64
  | unknownTag
  deriving Repr, DecidableEq

/-- A part of a time that is out of its range. -/
inductive MomentFault where
  | year (n : Nat)
  | month
  | day
  | hour
  | minute
  | second
  | offset (seconds : Int)
  deriving Repr, DecidableEq

/-- A scalar that has the tag of a number, a flag or a time and does not write one. -/
inductive ScalarFault where
  | number (e : NumberError)
  | emptyNumber
  | flag (text : List Char)
  | notMoment
  | momentOfMapping
  | moment (e : MomentFault)
  | sexagesimalRange
  | characterRange
  | characterSize
  deriving Repr, DecidableEq

/-- The words for a length of time that is not zero: whole days and the seconds
beyond them. -/
def MomentFault.spanText (seconds : Int) : List Char :=
  let days := seconds.fdiv 86400
  let rest := seconds.fmod 86400
  let parts := (if days = 0 then [] else ["days=".toList ++ intText days]) ++
    (if rest = 0 then [] else ["seconds=".toList ++ intText rest])
  "datetime.timedelta(".toList ++ List.intercalate [',', ' '] parts ++ [')']

/-- The words for a part out of range. -/
def MomentFault.message : MomentFault → String
  | .year n => "year " ++ toString n ++ " is out of range"
  | .month => "month must be in 1..12"
  | .day => "day is out of range for month"
  | .hour => "hour must be in 0..23"
  | .minute => "minute must be in 0..59"
  | .second => "second must be in 0..59"
  | .offset seconds =>
    "offset must be a timedelta strictly between -timedelta(hours=24) and " ++
      "timedelta(hours=24), not " ++ String.ofList (spanText seconds) ++ "."

/-- The words for a scalar without a value. -/
def ScalarFault.message : ScalarFault → String
  | .number e => e.message
  | .emptyNumber => "string index out of range"
  | .flag text => String.ofList (Text.quoted text)
  | .notMoment => "'NoneType' object has no attribute 'groupdict'"
  | .momentOfMapping => "expected string or bytes-like object, got 'list'"
  | .moment e => e.message
  | .sexagesimalRange => "int too large to convert to float"
  | .characterRange => "chr() arg not in range(0x110000)"
  | .characterSize => "Python int too large to convert to C int"

/-- Why a text is no document, by the stage in which it fails. -/
inductive Fault where
  | character
  | token (f : TokenFault)
  | structural (f : StructureFault)
  | node (f : NodeFault)
  | value (f : ValueFault)
  | scalar (f : ScalarFault)
  deriving Repr, DecidableEq

end Yaml
end RegistryAuth
