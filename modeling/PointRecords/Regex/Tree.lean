import PointRecords.Regex.Position

/-!
# Patterns as trees

A pattern as it is written, with the part of the text that each piece takes.
What a piece means depends on the flags around it and is not decided here.
-/

namespace PointRecords.Regex

/-- What can be switched on and off inside a pattern. -/
inductive Flag
  | caseless
  | manyLines
  | dotMatchesLineFeed
  | swapsGreed
  | unicode
  | returnsEndLines
  | ignoresBlanks
  deriving DecidableEq

/-- Flags in the order in which they are written, each switched on or off. -/
abbrev Flags := List (Flag × Bool)

/-- What the flags say about one of them. -/
def Flags.get? (flags : Flags) (flag : Flag) : Option Bool :=
  (flags.find? (·.1 = flag)).map (·.2)

/-- The named classes of ASCII characters. -/
inductive AsciiClass
  | alnum
  | alpha
  | ascii
  | blank
  | cntrl
  | digit
  | graph
  | lower
  | print
  | punct
  | space
  | upper
  | word
  | xdigit
  deriving DecidableEq

namespace AsciiClass

def name : AsciiClass → String
  | .alnum => "alnum"
  | .alpha => "alpha"
  | .ascii => "ascii"
  | .blank => "blank"
  | .cntrl => "cntrl"
  | .digit => "digit"
  | .graph => "graph"
  | .lower => "lower"
  | .print => "print"
  | .punct => "punct"
  | .space => "space"
  | .upper => "upper"
  | .word => "word"
  | .xdigit => "xdigit"

def ofName? (word : List Char) : Option AsciiClass :=
  [AsciiClass.alnum, .alpha, .ascii, .blank, .cntrl, .digit, .graph, .lower, .print, .punct,
    .space, .upper, .word, .xdigit].find? fun known => known.name.toList == word

/-- The ranges of code points of a class, in increasing order. -/
def ranges : AsciiClass → List (Nat × Nat)
  | .alnum => [(0x30, 0x39), (0x41, 0x5a), (0x61, 0x7a)]
  | .alpha => [(0x41, 0x5a), (0x61, 0x7a)]
  | .ascii => [(0x00, 0x7f)]
  | .blank => [(0x09, 0x09), (0x20, 0x20)]
  | .cntrl => [(0x00, 0x1f), (0x7f, 0x7f)]
  | .digit => [(0x30, 0x39)]
  | .graph => [(0x21, 0x7e)]
  | .lower => [(0x61, 0x7a)]
  | .print => [(0x20, 0x7e)]
  | .punct => [(0x21, 0x2f), (0x3a, 0x40), (0x5b, 0x60), (0x7b, 0x7e)]
  | .space => [(0x09, 0x0d), (0x20, 0x20)]
  | .upper => [(0x41, 0x5a)]
  | .word => [(0x30, 0x39), (0x41, 0x5a), (0x5f, 0x5f), (0x61, 0x7a)]
  | .xdigit => [(0x30, 0x39), (0x41, 0x46), (0x61, 0x66)]

end AsciiClass

/-- Where a word begins or ends, or does not.  A half boundary looks at one side
only. -/
inductive WordEdge
  | either
  | neither
  | start
  | finish
  | startHalf
  | finishHalf
  deriving DecidableEq

/-- A place that a pattern asks for. -/
inductive Assertion
  | lineStart
  | lineEnd
  | textStart
  | textEnd
  | word (edge : WordEdge)
  deriving DecidableEq

/-- A character of a pattern.  One that is written as two hexadecimal digits
stands for a byte where characters are bytes. -/
structure Literal where
  span : Span
  character : Char
  isByte : Bool
  deriving DecidableEq

/-- The pieces that hold no others.  A `property` may be a name alone or a name
with a value; a `shorthand` is a class of one letter. -/
inductive Atom
  | literal (character : Literal)
  | dot (span : Span)
  | assertion (span : Span) (assertion : Assertion)
  | property (span : Span) (name : List Char) (hasValue : Bool)
  | shorthand (span : Span) (members : AsciiClass) (negated : Bool)
  deriving DecidableEq

namespace Atom

/-- The part of the pattern that a piece takes. -/
def span : Atom → Span
  | .literal character => character.span
  | .dot span | .assertion span _ | .property span _ _ | .shorthand span _ _ => span

end Atom

/-- How two classes are combined. -/
inductive SetOperation
  | intersection
  | difference
  | symmetricDifference
  deriving DecidableEq

/-- What stands between brackets. -/
inductive ClassTree
  | empty (span : Span)
  | atom (piece : Atom)
  | range (span : Span) (first last : Literal)
  | named (span : Span) (members : AsciiClass) (negated : Bool)
  | bracketed (span : Span) (negated : Bool) (contents : ClassTree)
  | union (span : Span) (items : List ClassTree)
  | combination (span : Span) (operation : SetOperation) (left right : ClassTree)

namespace ClassTree

def span : ClassTree → Span
  | .atom piece => piece.span
  | .empty span | .range span _ _ | .named span _ _ | .bracketed span _ _ | .union span _
  | .combination span _ _ _ => span

end ClassTree

/-- How often something is repeated.  Where there is no `most`, any number of
times will do. -/
structure Bounds where
  least : Nat
  most : Option Nat
  deriving DecidableEq

/-- What a group is for: to be numbered, or to set flags inside. -/
inductive GroupKind
  | numbered (number : Nat)
  | plain (flags : Flags)
  deriving DecidableEq

namespace GroupKind

def flags : GroupKind → Flags
  | .numbered _ => []
  | .plain flags => flags

end GroupKind

/-- A pattern as it is written. -/
inductive Tree
  | empty (span : Span)
  | flags (span : Span) (flags : Flags)
  | atom (piece : Atom)
  | bracketed (span : Span) (negated : Bool) (contents : ClassTree)
  | repetition (span : Span) (bounds : Bounds) (greedy : Bool) (item : Tree)
  | group (span : Span) (kind : GroupKind) (item : Tree)
  | concatenation (span : Span) (items : List Tree)
  | alternation (span : Span) (branches : List Tree)

namespace Tree

def span : Tree → Span
  | .atom piece => piece.span
  | .empty span | .flags span _ | .bracketed span _ _ | .repetition span _ _ _
  | .group span _ _ | .concatenation span _ | .alternation span _ => span

end Tree

end PointRecords.Regex
