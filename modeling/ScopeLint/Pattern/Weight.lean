import ScopeLint.Pattern.Node
import ScopeLint.Text.Utf8

/-!
# The weight of a pattern

A pattern is refused when the machine that matches it byte by byte would grow too large.  The
weight gauges the size of that machine in bytes, part by part: one state for each byte, one for each
choice and each condition, two for each group, and as many copies as a repetition asks for.  A set
of characters beyond ASCII takes the states of a tree of byte ranges, in which a run shares what it
has in common with the run before.
-/

namespace ScopeLint.Pattern

def CharKind.codes : CharKind → Text.Ranges
  | .digit => Text.digitCodes
  | .space => Text.blankRanges
  | .word => Text.wordCodes
  | .asciiDigit => [(0x30, 0x39)]
  | .asciiSpace => [(0x09, 0x0D), (0x20, 0x20)]
  | .asciiWord => [(0x30, 0x39), (0x41, 0x5A), (0x5F, 0x5F), (0x61, 0x7A)]

def CharSet.codes : CharSet → Text.Ranges
  | .empty => []
  | .range first last => if first ≤ last then [(first.toNat, last.toNat)] else []
  | .alike c => .ofCodes ((Text.foldClass c).map Char.toNat)
  | .kind k => k.codes
  | .listed codes => codes
  | .union a b => a.codes.union b.codes
  | .inter a b => a.codes.inter b.codes
  | .diff a b => a.codes.diff b.codes
  | .symmDiff a b => (a.codes.diff b.codes).union (b.codes.diff a.codes)
  | .compl a => a.codes.compl
  | .caseless a =>
    let upper := (a.codes.inter [(0x61, 0x7A)]).movedBack 32
    let lower := (a.codes.inter [(0x41, 0x5A)]).moved 32
    (a.codes.union upper).union lower
  | .folded a => Text.foldRanges a.codes

def stateWeight : Nat := 32

/-- The number of places at the start on which two runs of byte sequences agree. -/
def sharedPlaces : Text.ByteRun → Text.ByteRun → Nat
  | a :: as, b :: bs => if a = b then sharedPlaces as bs + 1 else 0
  | _, _ => 0

/-- The weight of a tree of byte sequences: a branch for each run, and a state for each place that
it does not share with the run before. -/
def treeWeight : (before : Text.ByteRun) → List Text.ByteRun → Nat
  | _, [] => 0
  | before, run :: rest =>
    4 + (run.length - sharedPlaces before run) * stateWeight + treeWeight run rest

def weightOfCodes (codes : Text.Ranges) : Nat :=
  match codes with
  | [(lo, hi)] =>
    if lo = hi then (Text.utf8Bytes lo).length * stateWeight
    else if hi < 128 then 2 * stateWeight + 8
    else 2 * stateWeight + treeWeight [] (Text.utf8Runs codes)
  | codes =>
    if codes.all (fun r => r.2 < 128) then 2 * stateWeight + 8 * codes.length
    else 2 * stateWeight + treeWeight [] (Text.utf8Runs codes)

/-- What a pattern is to the pattern around it. -/
inductive Role where
  | alone
  /-- One of several alternatives. -/
  | branch
  /-- A part of a sequence. -/
  | part
  deriving DecidableEq

/-- What it takes to join the pattern to the one around it. -/
def Role.joint : Role → Nat
  | .branch => 4
  | _ => 0

namespace Node

/-- The set of a pattern that is a choice of single characters. -/
def asSet? : Node → Option CharSet
  | .char set => some set
  | .alt a b => do return .union (← a.asSet?) (← b.asSet?)
  | _ => none

/-- The weight of a pattern by its role.  The states of a choice are shared by its branches, and an
empty part of a sequence weighs nothing. -/
def weight (role : Role) : Node → Nat
  | .empty => if role = .part then 0 else role.joint + stateWeight
  | .char set => role.joint + weightOfCodes set.codes
  | .assertion _ => role.joint + stateWeight
  | .seq a b => role.joint + a.weight .part + b.weight .part
  | .alt a b =>
    if role = .branch then a.weight .branch + b.weight .branch
    else
      match (Node.alt a b).asSet? with
      | some set => weightOfCodes set.codes
      | none => 2 * stateWeight + a.weight .branch + b.weight .branch
  | .group _ a => role.joint + 2 * stateWeight + a.weight .alone
  | .star _ a =>
    role.joint + (if a.isNullable then 3 * stateWeight + 16 else stateWeight + 8) + a.weight .alone
  | .plus _ a => role.joint + stateWeight + 8 + a.weight .alone
  | .exactly count a => role.joint + count * a.weight .alone
  | .upTo _ count a => role.joint + stateWeight + count * (stateWeight + 8 + a.weight .alone)

/-- The weight that a pattern may have: ten mebibytes, less the states around every pattern. -/
def weightLimit : Nat := 10 * 1024 * 1024 - 256

def isLight (node : Node) : Bool := node.weight .alone ≤ weightLimit

end Node

end ScopeLint.Pattern
