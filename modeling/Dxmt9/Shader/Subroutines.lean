import Dxmt9.Shader.Operands

/-!
# Subroutines put in place

The bodies of labels are copied to where they are called, between markers that
name the frame of the call.  A return becomes a marker.
-/

namespace Dxmt9.Shader

structure LabelRange where
  label : UInt32
  labelInstruction : Nat
  bodyBegin : Nat
  retInstruction : Nat
  deriving DecidableEq

def makeInternalInstruction (opcode : UInt32) (controls : UInt32 := 0) :
    D3DDecodedInstruction :=
  { opcode := opcode
    controls := controls }

def makePredicateIfInstruction : D3DDecodedInstruction :=
  { opcode := kD3DSIO_IF
    operands :=
      [(1 <<< (31 : UInt32)) ||| (0 &&& 0x7ff) |||
        (tokenBits kD3DSPR_PREDICATE 0 0x7 <<< (28 : UInt32)) |||
        (tokenBits kD3DSPR_PREDICATE 3 0x3 <<< (11 : UInt32))]
    relAddrTokens := [0] }

def findLabelRange (labels : List LabelRange) (label : UInt32) :
    Option LabelRange :=
  labels.find? fun range => range.label == label

def instructionIsInsideLabelRange (labels : List LabelRange)
    (instructionIndex : Nat) : Bool :=
  labels.any fun range =>
    decide (range.labelInstruction ≤ instructionIndex) &&
      decide (instructionIndex ≤ range.retInstruction)

/-- The labels that stand in a row at the front. -/
def collectAliases :
    List D3DDecodedInstruction → Except DecodeStop (List UInt32)
  | [] => .ok []
  | instruction :: rest =>
      if instruction.opcode ≠ kD3DSIO_LABEL then .ok []
      else
        match instruction.operands with
        | [] => .error (.reject .invalidOpcode)
        | operand :: _ => do
            let aliases ← collectAliases rest
            return decodeLabelIndex operand :: aliases

/-- The return that ends a body: the first outside of all its blocks. -/
def findReturn :
    List UInt32 → Nat → List D3DDecodedInstruction → Except DecodeStop Nat
  | _, _, [] => .error (.reject .invalidOpcode)
  | controlStack, index, instruction :: rest =>
      let opcode := instruction.opcode
      if opcode = kD3DSIO_LABEL then .error (.reject .invalidOpcode)
      else if opcode ∈ [kD3DSIO_IF, kD3DSIO_IFC, kD3DSIO_LOOP,
          kD3DSIO_REP] then
        findReturn (opcode :: controlStack) (index + 1) rest
      else if opcode ∈ [kD3DSIO_ENDIF, kD3DSIO_ENDLOOP, kD3DSIO_ENDREP] then
        match controlStack with
        | [] => .error (.reject .invalidOpcode)
        | _ :: outer => findReturn outer (index + 1) rest
      else if opcode = kD3DSIO_RET ∧ controlStack = [] then .ok index
      else findReturn controlStack (index + 1) rest

/-- The labels found so far, and where the search goes on. -/
structure LabelSearch where
  labels : List LabelRange := []
  resume : Nat := 0

def LabelSearch.step (instructions : List D3DDecodedInstruction)
    (search : LabelSearch) (index : Nat) : Except DecodeStop LabelSearch :=
  match instructions.drop index with
  | [] => .error .outside
  | instruction :: rest =>
      if index < search.resume ∨ instruction.opcode ≠ kD3DSIO_LABEL then
        .ok search
      else do
        let aliases ← collectAliases (instruction :: rest)
        let bodyBegin := index + aliases.length
        if aliases.any fun label =>
            (findLabelRange search.labels label).isSome ||
              aliases.count label != 1 then
          .error (.reject .invalidOpcode)
        else
          let ret ← findReturn [] bodyBegin (instructions.drop bodyBegin)
          return {
            labels := search.labels ++ aliases.map fun label =>
              { label := label
                labelInstruction := index
                bodyBegin := bodyBegin
                retInstruction := ret }
            resume := ret + 1 }

def discoverLabelRanges (instructions : List D3DDecodedInstruction) :
    Except DecodeStop (List LabelRange) :=
  ((List.range instructions.length).foldlM
    (LabelSearch.step instructions) {}).map LabelSearch.labels

/-- The instructions put out so far, and the next frame. -/
structure Expansion where
  out : List D3DDecodedInstruction := []
  nextCallFrame : UInt32 := 0

def Expansion.push (expansion : Expansion)
    (instructions : List D3DDecodedInstruction) : Expansion :=
  { expansion with out := expansion.out ++ instructions }

/-- What stands before and behind the body of a call. -/
def callGuard (call : D3DDecodedInstruction) :
    Except DecodeStop
      (List D3DDecodedInstruction × List D3DDecodedInstruction) :=
  if call.opcode = kD3DSIO_CALLNZ then
    match call.operands with
    | _ :: condition :: _ =>
        .ok ([{ opcode := kD3DSIO_IF
                predicated := call.predicated
                operands := [condition]
                relAddrTokens := [(call.relAddrTokens[1]?).getD 0] }],
          [makeInternalInstruction kD3DSIO_ENDIF])
    | _ => .error (.reject .invalidOpcode)
  else if call.predicated then
    .ok ([makePredicateIfInstruction],
      [makeInternalInstruction kD3DSIO_ENDIF])
  else .ok ([], [])

/-- One instruction of a range, and where the range goes on.  `body` expands
the body of a label. -/
def Expansion.step
    (body : List UInt32 → LabelRange → Expansion → Except DecodeStop Expansion)
    (labels : List LabelRange) (activeLabels : List UInt32)
    (expansion : Expansion) (index : Nat)
    (instruction : D3DDecodedInstruction) :
    Except DecodeStop (Expansion × Nat) :=
  if instruction.opcode = kD3DSIO_LABEL then
    match instruction.operands with
    | [] => .error (.reject .invalidOpcode)
    | operand :: _ =>
        match findLabelRange labels (decodeLabelIndex operand) with
        | some range => .ok (expansion, range.retInstruction + 1)
        | none => .ok (expansion, index + 1)
  else if instruction.opcode = kD3DSIO_RET then
    .ok (expansion.push [makeInternalInstruction kDXMT9_INTERNAL_CALL_RET],
      index + 1)
  else if instruction.opcode ∈ [kD3DSIO_CALL, kD3DSIO_CALLNZ] then
    match instruction.operands with
    | [] => .error (.reject .invalidOpcode)
    | operand :: _ =>
        let label := decodeLabelIndex operand
        match findLabelRange labels label with
        | none => .error (.reject .invalidOpcode)
        | some range =>
            if label ∈ activeLabels then .error (.reject .invalidOpcode)
            else do
              let guard ← callGuard instruction
              let callFrame := expansion.nextCallFrame
              let opened := (expansion.push guard.1).push
                [makeInternalInstruction kDXMT9_INTERNAL_CALL_BEGIN callFrame]
              let expanded ← body (activeLabels ++ [label]) range
                { opened with nextCallFrame := callFrame + 1 }
              return (expanded.push
                (makeInternalInstruction kDXMT9_INTERNAL_CALL_END
                  callFrame :: guard.2), index + 1)
  else .ok (expansion.push [instruction], index + 1)

/-- The instruction at an index, if the range has come that far. -/
def Expansion.visit
    (body : List UInt32 → LabelRange → Expansion → Except DecodeStop Expansion)
    (instructions : List D3DDecodedInstruction) (labels : List LabelRange)
    (activeLabels : List UInt32) (state : Expansion × Nat) (index : Nat) :
    Except DecodeStop (Expansion × Nat) :=
  if index < state.2 then .ok state
  else
    match instructions[index]? with
    | none => .error .outside
    | some instruction =>
        state.1.step body labels activeLabels index instruction

/-- The instructions of a range, with calls nested no deeper than a bound. -/
def appendExpandedInstructionRange
    (instructions : List D3DDecodedInstruction) (labels : List LabelRange) :
    Nat → Nat → Nat → List UInt32 → Expansion → Except DecodeStop Expansion
  | 0, _, _, _, _ => .error .unfinished
  | depth + 1, first, stop, activeLabels, expansion =>
      let body := fun active (range : LabelRange) inner =>
        appendExpandedInstructionRange instructions labels depth
          range.bodyBegin (range.retInstruction + 1) active inner
      ((List.range' first (stop - first)).foldlM
        (Expansion.visit body instructions labels activeLabels)
        (expansion, first)).map Prod.fst

/-- Calls nest no deeper than there are labels. -/
def inlineShaderSubroutines (module_ : SpirvModule) :
    Except DecodeStop SpirvModule :=
  let instructions := module_.instructions
  if !(instructions.any fun instruction =>
      instruction.opcode == kD3DSIO_LABEL) then
    .ok module_
  else do
    let labels ← discoverLabelRanges instructions
    let expanded ← (List.range instructions.length).foldlM
      (fun (expansion : Expansion) index =>
        if instructionIsInsideLabelRange labels index then .ok expansion
        else
          appendExpandedInstructionRange instructions labels
            (labels.length + 1) index (index + 1) [] expansion)
      {}
    return { module_ with instructions := expanded.out }

end Dxmt9.Shader
