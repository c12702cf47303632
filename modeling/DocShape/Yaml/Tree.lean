import DocShape.Yaml.Layout

namespace DocShape.Yaml

/-! Documents as trees of nodes, before scalars get their meaning. -/

structure Properties where
  anchor : Option Nat
  tag : Option String
deriving Repr, DecidableEq

inductive Tree where
  | reference (anchor : Nat)
  | scalar (properties : Properties) (text : String) (isPlain : Bool)
  | seq (properties : Properties) (items : List Tree)
  | map (properties : Properties) (entries : List (Tree × Tree))
deriving Repr, Inhabited

namespace Tree

def empty : Tree := .scalar ⟨none, none⟩ "" true

def anchor? : Tree → Option Nat
  | .reference _ => none
  | .scalar properties _ _ => properties.anchor
  | .seq properties _ => properties.anchor
  | .map properties _ => properties.anchor

mutual

/-- A node and all nodes in it, in written order. -/
def nodes : Tree → List Tree
  | .seq properties items => .seq properties items :: nodesOfItems items
  | .map properties entries => .map properties entries :: nodesOfEntries entries
  | leaf => [leaf]

def nodesOfItems : List Tree → List Tree
  | [] => []
  | item :: rest => nodes item ++ nodesOfItems rest

def nodesOfEntries : List (Tree × Tree) → List Tree
  | [] => []
  | (key, value) :: rest => nodes key ++ nodes value ++ nodesOfEntries rest

end

structure Stream where
  rest : List Token
  handles : List (String × String)
  /-- The numbers of the anchors' names, the latest first. -/
  names : List (String × Nat)

abbrev Composer := StateT Stream Option

namespace Composer

def peek? : Composer (Option Token) := return (← get).rest.head?

def skip : Composer Unit := modify fun stream => { stream with rest := stream.rest.drop 1 }

def nextIsOneOf (tokens : List Token) : Composer Bool :=
  return (← peek?).any tokens.contains

def accept (token : Token) : Composer Bool := do
  if (← peek?) == some token then
    skip
    return true
  else return false

/-- Numbers an anchor by how many names there were before.  A name given again takes a new
number, and the same number may then go to another name. -/
def number (name : String) : Composer Nat := do
  let stream ← get
  let fresh := stream.names.length
  let others := stream.names.filter fun known => known.1 != name
  set { stream with names := (name, fresh) :: others }
  return fresh

def anchor? : Composer (Option Nat) := do
  match ← peek? with
  | some (.anchor name) =>
      skip
      return some (← number name)
  | _ => return none

def tag? : Composer (Option String) := do
  match ← peek? with
  | some (.tag handle suffix) =>
      skip
      if handle.isEmpty then return some suffix
      match (← get).handles.lookup handle with
      | some meaning => return some (meaning ++ suffix)
      | none => failure
  | _ => return none

def properties : Composer Properties := do
  match ← anchor? with
  | some anchor => return ⟨some anchor, ← tag?⟩
  | none =>
      let tag ← tag?
      return ⟨← anchor?, tag⟩

/-- The bare tag on a scalar says no more than no tag. -/
def scalarProperties (properties : Properties) : Properties :=
  if properties.tag = some "!" then { properties with tag := none } else properties

/-- A node without content, which needs an anchor or a tag. -/
def emptyNode (properties : Properties) : Composer Tree :=
  if properties.anchor.isNone && properties.tag.isNone then failure
  else return .scalar properties "" true

mutual

/-- A node at most `depth` collections deep.  Block collections may begin only where `inBlock`
holds, and sequences without an indentation of their own only where `isEntry` does. -/
def node (inBlock isEntry : Bool) : Nat → Nat → Composer Tree
  | 0, _ => failure
  | bound + 1, depth => do
      if let some (.reference name) ← peek? then
        skip
        match (← get).names.lookup name with
        | some anchor => return .reference anchor
        | none => failure
      let properties ← properties
      match ← peek? with
      | some (.scalar text isPlain) =>
          skip
          return .scalar (scalarProperties properties) text isPlain
      | some token =>
          match token, depth with
          | .blockEntry, inner + 1 =>
              if isEntry then return .seq properties (← bareItems bound inner [])
              else emptyNode properties
          | .flowSeq, inner + 1 =>
              skip
              return .seq properties (← flowItems bound inner true [])
          | .flowMap, inner + 1 =>
              skip
              return .map properties (← flowEntries bound inner true [])
          | .blockSeq, inner + 1 =>
              if !inBlock then emptyNode properties
              else
                skip
                return .seq properties (← blockItems bound inner [])
          | .blockMap, inner + 1 =>
              if !inBlock then emptyNode properties
              else
                skip
                return .map properties (← blockEntries bound inner [])
          | _, _ => emptyNode properties
      | none => emptyNode properties
termination_by structural bound => bound

/-- Items of a block sequence up to its end, after those in `found` in reverse order. -/
def blockItems : Nat → Nat → List Tree → Composer (List Tree)
  | 0, _, _ => failure
  | bound + 1, depth, found => do
      if ← accept .blockEntry then
        let item ← nodeUnless [.blockEntry, .blockEnd] bound depth false
        blockItems bound depth (item :: found)
      else if ← accept .blockEnd then return found.reverse
      else failure
termination_by structural bound => bound

/-- Items of a sequence that stands at the indentation of the mapping around it. -/
def bareItems : Nat → Nat → List Tree → Composer (List Tree)
  | 0, _, _ => failure
  | bound + 1, depth, found => do
      if ← accept .blockEntry then
        let item ← nodeUnless [.blockEntry, .key, .value, .blockEnd] bound depth false
        bareItems bound depth (item :: found)
      else return found.reverse
termination_by structural bound => bound

def blockEntries : Nat → Nat → List (Tree × Tree) → Composer (List (Tree × Tree))
  | 0, _, _ => failure
  | bound + 1, depth, found => do
      if ← accept .key then
        let key ← nodeUnless [.key, .value, .blockEnd] bound depth true
        let value ←
          if ← accept .value then nodeUnless [.key, .value, .blockEnd] bound depth true
          else pure empty
        blockEntries bound depth ((key, value) :: found)
      else if ← accept .blockEnd then return found.reverse
      else failure
termination_by structural bound => bound

/-- A node in a block, or an empty one if one of these tokens comes next. -/
def nodeUnless (tokens : List Token) : Nat → Nat → Bool → Composer Tree
  | 0, _, _ => failure
  | bound + 1, depth, isEntry => do
      if ← nextIsOneOf tokens then return empty else node true isEntry bound depth
termination_by structural bound => bound

/-- Items of a sequence in brackets.  A key or a colon in it makes a mapping of one entry. -/
def flowItems : Nat → Nat → Bool → List Tree → Composer (List Tree)
  | 0, _, _, _ => failure
  | bound + 1, depth, isFirst, found => do
      if ← accept .flowSeqEnd then return found.reverse
      if !isFirst then
        if !(← accept .flowEntry) then failure
      if ← accept .flowSeqEnd then return found.reverse
      let item ←
        if ← accept .key then
          match depth with
          | 0 => failure
          | inner + 1 => do pure (.map ⟨none, none⟩ [← pair bound inner])
        else node false false bound depth
      flowItems bound depth false (item :: found)
termination_by structural bound => bound

/-- The one entry of a mapping in brackets.  A token in the place of the key is passed over. -/
def pair : Nat → Nat → Composer (Tree × Tree)
  | 0, _ => failure
  | bound + 1, depth => do
      let key ←
        if ← nextIsOneOf [.value, .flowEntry, .flowSeqEnd] then do
          skip
          pure empty
        else node false false bound depth
      if ← accept .value then
        if ← nextIsOneOf [.flowEntry, .flowSeqEnd] then return (key, empty)
        else return (key, ← node false false bound depth)
      else return (key, empty)
termination_by structural bound => bound

def flowEntries : Nat → Nat → Bool → List (Tree × Tree) → Composer (List (Tree × Tree))
  | 0, _, _, _ => failure
  | bound + 1, depth, isFirst, found => do
      if ← accept .flowMapEnd then return found.reverse
      if !isFirst then
        if !(← accept .flowEntry) then failure
      if ← accept .flowMapEnd then return found.reverse
      if ← accept .key then
        let key ←
          if ← nextIsOneOf [.value, .flowEntry, .flowMapEnd] then pure empty
          else node false false bound depth
        let value ←
          if ← accept .value then
            if ← nextIsOneOf [.flowEntry, .flowMapEnd] then pure empty
            else node false false bound depth
          else pure empty
        flowEntries bound depth false ((key, value) :: found)
      else
        let key ← node false false bound depth
        flowEntries bound depth false ((key, empty) :: found)
termination_by structural bound => bound

end

def isDirective : Token → Bool
  | .version .. | .handle .. => true
  | _ => false

def standardHandles : List (String × String) :=
  [("!", "!"), ("!!", "tag:yaml.org,2002:")]

/-- Directives in front of a document.  The version may be given once and has to be 1.1 or
1.2; a handle gets its meaning once. -/
def directives : Nat → Bool → List (String × String) → Composer (List (String × String))
  | 0, _, _ => failure
  | bound + 1, hasVersion, handles => do
      match ← peek? with
      | some (.version major minor) =>
          skip
          if hasVersion || major != 1 || !(minor == 1 || minor == 2) then failure
          directives bound true handles
      | some (.handle name meaning) =>
          skip
          if (handles.lookup name).isSome then failure
          directives bound hasVersion ((name, meaning) :: handles)
      | _ => return handles

/-- The one document of a stream; an empty stream holds an empty document. -/
def document (bound depth : Nat) : Composer Tree := do
  match ← peek? with
  | none => return empty
  | some first =>
      if isDirective first || first == .documentStart then
        let handles ← directives bound false []
        modify fun stream => { stream with handles := handles ++ standardHandles }
        if !(← accept .documentStart) then failure
        match ← peek? with
        | some next =>
            if isDirective next || next == .documentStart || next == .documentEnd then
              return empty
            else node true false bound depth
        | none => return empty
      else node true false bound depth

end Composer

def maxDepth : Nat := 128

def ofTokens? (tokens : List Token) : Option Tree := do
  let (tree, stream) ←
    (Composer.document (2 * tokens.length + 4) maxDepth).run
      ⟨tokens, Composer.standardHandles, []⟩
  if stream.rest.all (· == .documentEnd) then return tree else failure

end Tree
end DocShape.Yaml
