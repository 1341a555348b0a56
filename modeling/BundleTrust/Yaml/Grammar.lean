import BundleTrust.Yaml.Node

/-!
# Nodes from tokens

The grammar of one YAML document: its directives, its marker, its root node, and nothing
after it but closing markers.
-/

namespace BundleTrust
namespace Yaml

/-- Where a node stands, which decides what may be missing and what it may be. -/
inductive NodePlace where
  /-- At the root or after the dash of an indented list: any node. -/
  | block
  /-- A key or a value of an indented mapping: also a list that is not indented further. -/
  | blockEntry
  /-- Inside brackets: no indented collection. -/
  | flow
  deriving DecidableEq, Repr

/-- The anchor and the tag at the front of a node, in either order. -/
def readProperties? (handles : TagHandles) :
    List Token → Option (NodeProperties String × List Token)
  | .anchor name :: .tag spelling :: rest =>
      (spelling.resolve? handles).map fun tag => (⟨some name, some tag⟩, rest)
  | .tag spelling :: .anchor name :: rest =>
      (spelling.resolve? handles).map fun tag => (⟨some name, some tag⟩, rest)
  | .anchor name :: rest => some (⟨some name, none⟩, rest)
  | .tag spelling :: rest =>
      (spelling.resolve? handles).map fun tag => (⟨none, some tag⟩, rest)
  | rest => some (.none, rest)

/-- Whether an entry of an indented list ends before it has a node. -/
def endsDash : List Token → Bool
  | .dash :: _ => true
  | .blockEnd :: _ => true
  | _ => false

/-- Whether a key or a value of an indented mapping ends before it has a node. -/
def endsEntry : List Token → Bool
  | .key :: _ => true
  | .value :: _ => true
  | .blockEnd :: _ => true
  | _ => false

/-- Whether an entry of a bracketed collection ends before it has a node. -/
def endsFlowEntry (closing : Token) : List Token → Bool
  | .comma :: _ => true
  | token :: _ => token = closing
  | [] => false

/-- Whether a key of a bracketed collection ends before it has a node. -/
def endsFlowKey (closing : Token) : List Token → Bool
  | .value :: _ => true
  | rest => endsFlowEntry closing rest

/-- A part of a node and the tokens after it. -/
abbrev Part (value : Type) := Option (value × List Token)

mutual

/-- Read a node.  Every call takes one unit of fuel. -/
def readNode? (handles : TagHandles) :
    (fuel : Nat) → NodePlace → List Token → Part (Node String)
  | 0, _, _ => none
  | _ + 1, _, .alias name :: rest => some (.alias name, rest)
  | fuel + 1, place, tokens =>
      (readProperties? handles tokens).bind fun (properties, tokens) =>
        match tokens with
        | .scalar form text :: rest => some (.scalar properties form text, rest)
        | .flowListStart :: rest =>
            (readFlowList? handles fuel true rest).map fun read =>
              (.list properties read.1, read.2)
        | .flowMappingStart :: rest =>
            (readFlowMapping? handles fuel true rest).map fun read =>
              (.mapping properties read.1, read.2)
        | .dash :: _ =>
            if place = .blockEntry then
              (readLevelList? handles fuel tokens).map fun read =>
                (.list properties read.1, read.2)
            else if properties = .none then none
            else some (.scalar properties .plain "", tokens)
        | .blockListStart :: rest =>
            if place ≠ .flow then
              (readBlockList? handles fuel rest).map fun read =>
                (.list properties read.1, read.2)
            else if properties = .none then none
            else some (.scalar properties .plain "", tokens)
        | .blockMappingStart :: rest =>
            if place ≠ .flow then
              (readBlockMapping? handles fuel rest).map fun read =>
                (.mapping properties read.1, read.2)
            else if properties = .none then none
            else some (.scalar properties .plain "", tokens)
        | _ =>
            if properties = .none then none
            else some (.scalar properties .plain "", tokens)

/-- Read the items of an indented list. -/
def readBlockList? (handles : TagHandles) : (fuel : Nat) → List Token → Part (List (Node String))
  | 0, _ => none
  | fuel + 1, .dash :: rest =>
      if endsDash rest then
        (readBlockList? handles fuel rest).map fun read => (.missing :: read.1, read.2)
      else
        (readNode? handles fuel .block rest).bind fun (item, rest) =>
          (readBlockList? handles fuel rest).map fun read => (item :: read.1, read.2)
  | _ + 1, .blockEnd :: rest => some ([], rest)
  | _ + 1, _ => none

/-- Read the items of a list that is indented no further than the mapping it stands in. -/
def readLevelList? (handles : TagHandles) : (fuel : Nat) → List Token → Part (List (Node String))
  | 0, _ => none
  | fuel + 1, .dash :: rest =>
      if endsDash rest || endsEntry rest then
        (readLevelList? handles fuel rest).map fun read => (.missing :: read.1, read.2)
      else
        (readNode? handles fuel .block rest).bind fun (item, rest) =>
          (readLevelList? handles fuel rest).map fun read => (item :: read.1, read.2)
  | _ + 1, rest => some ([], rest)

/-- Read the entries of an indented mapping. -/
def readBlockMapping? (handles : TagHandles) :
    (fuel : Nat) → List Token → Part (List (Node String × Node String))
  | 0, _ => none
  | fuel + 1, .key :: rest =>
      let key :=
        if endsEntry rest then some (.missing, rest)
        else readNode? handles fuel .blockEntry rest
      key.bind fun (key, rest) =>
        (readBlockValue? handles fuel rest).bind fun (value, rest) =>
          (readBlockMapping? handles fuel rest).map fun read => ((key, value) :: read.1, read.2)
  | _ + 1, .blockEnd :: rest => some ([], rest)
  | _ + 1, _ => none

/-- Read the value of an entry of an indented mapping. -/
def readBlockValue? (handles : TagHandles) : (fuel : Nat) → List Token → Part (Node String)
  | 0, _ => none
  | fuel + 1, .value :: rest =>
      if endsEntry rest then some (.missing, rest)
      else readNode? handles fuel .blockEntry rest
  | _ + 1, rest => some (.missing, rest)

/-- Read the items of a bracketed list; from the second one on a comma comes first. -/
def readFlowList? (handles : TagHandles) :
    (fuel : Nat) → (isFirst : Bool) → List Token → Part (List (Node String))
  | 0, _, _ => none
  | _ + 1, _, .flowListEnd :: rest => some ([], rest)
  | fuel + 1, isFirst, tokens =>
      let entry :=
        match isFirst, tokens with
        | true, tokens => some tokens
        | false, .comma :: rest => some rest
        | false, _ => none
      entry.bind fun tokens =>
        match tokens with
        | .flowListEnd :: rest => some ([], rest)
        | .key :: rest =>
            (readPair? handles fuel rest).bind fun (entry, rest) =>
              (readFlowList? handles fuel false rest).map fun read =>
                (.mapping .none [entry] :: read.1, read.2)
        | tokens =>
            (readNode? handles fuel .flow tokens).bind fun (item, rest) =>
              (readFlowList? handles fuel false rest).map fun read => (item :: read.1, read.2)

/-- Read a single entry that stands in a bracketed list without braces of its own.  Where the
key is missing, the token that shows it is passed over. -/
def readPair? (handles : TagHandles) : (fuel : Nat) → List Token → Part (Node String × Node String)
  | 0, _ => none
  | fuel + 1, tokens =>
      let key :=
        if endsFlowKey .flowListEnd tokens then some (.missing, tokens.drop 1)
        else readNode? handles fuel .flow tokens
      key.bind fun (key, rest) =>
        (readFlowValue? handles fuel .flowListEnd rest).map fun read =>
          ((key, read.1), read.2)

/-- Read the value of an entry inside brackets. -/
def readFlowValue? (handles : TagHandles) :
    (fuel : Nat) → (closing : Token) → List Token → Part (Node String)
  | 0, _, _ => none
  | fuel + 1, closing, .value :: rest =>
      if endsFlowEntry closing rest then some (.missing, rest)
      else readNode? handles fuel .flow rest
  | _ + 1, _, rest => some (.missing, rest)

/-- Read the entries of a bracketed mapping; from the second one on a comma comes first. -/
def readFlowMapping? (handles : TagHandles) :
    (fuel : Nat) → (isFirst : Bool) → List Token → Part (List (Node String × Node String))
  | 0, _, _ => none
  | _ + 1, _, .flowMappingEnd :: rest => some ([], rest)
  | fuel + 1, isFirst, tokens =>
      let entry :=
        match isFirst, tokens with
        | true, tokens => some tokens
        | false, .comma :: rest => some rest
        | false, _ => none
      entry.bind fun tokens =>
        match tokens with
        | .flowMappingEnd :: rest => some ([], rest)
        | .key :: rest =>
            let key :=
              if endsFlowKey .flowMappingEnd rest then some (.missing, rest)
              else readNode? handles fuel .flow rest
            key.bind fun (key, rest) =>
              (readFlowValue? handles fuel .flowMappingEnd rest).bind fun (value, rest) =>
                (readFlowMapping? handles fuel false rest).map fun read =>
                  ((key, value) :: read.1, read.2)
        | tokens =>
            (readNode? handles fuel .flow tokens).bind fun (key, rest) =>
              (readFlowMapping? handles fuel false rest).map fun read =>
                ((key, .missing) :: read.1, read.2)

end

/-- Read the directives of a document: what its tag handles mean.  A version may be named
once, and has to be 1.1 or 1.2; a handle may be defined once. -/
def readDirectives? :
    (hasVersion : Bool) → TagHandles → List Token → Option (TagHandles × List Token)
  | hasVersion, handles, .version major minor :: rest =>
      if hasVersion || major ≠ 1 || (minor ≠ 1 && minor ≠ 2) then none
      else readDirectives? true handles rest
  | hasVersion, handles, .handle name meaning :: rest =>
      if (handles.lookup name).isSome then none
      else readDirectives? hasVersion ((name, meaning) :: handles) rest
  | _, handles, rest => some (handles, rest)

/-- Whether a document with an opening marker ends before it has a node. -/
def endsDocument : List Token → Bool
  | [] => true
  | .version _ _ :: _ => true
  | .handle _ _ :: _ => true
  | .documentStart :: _ => true
  | .documentEnd :: _ => true
  | _ => false

/-- Read the root node of the first document. -/
def readRoot? : List Token → Part (Node String)
  | tokens =>
      let fuel := 2 * tokens.length + 2
      match tokens with
      | .version _ _ :: _ | .handle _ _ :: _ | .documentStart :: _ =>
          (readDirectives? false [] tokens).bind fun (handles, rest) =>
            match rest with
            | .documentStart :: rest =>
                if endsDocument rest then some (.missing, rest)
                else readNode? (handles ++ defaultHandles) fuel .block rest
            | _ => none
      | tokens => readNode? defaultHandles fuel .block tokens

/-- The root node of the one document that tokens describe, if there is a document. -/
def rootOfTokens? (tokens : List Token) : Option (Option (Node String)) :=
  if tokens.isEmpty then some none
  else
    (readRoot? tokens).bind fun (root, rest) =>
      if rest.all (· = .documentEnd) then some (some root) else none

end Yaml
end BundleTrust
