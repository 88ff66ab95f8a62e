import TypedClient.Mapping
import TypedClient.Yaml.Token

namespace TypedClient.Yaml

inductive Node (α : Type) where
  | alias (target : α)
  | scalar (anchor : Option α) (tag : Option String) (isPlain : Bool) (text : String)
  | sequence (anchor : Option α) (tag : Option String) (items : List (Node α))
  | mapping (anchor : Option α) (tag : Option String) (entries : List (Node α × Node α))

def Node.missing {α : Type} : Node α := .scalar none none true ""

abbrev Handles := List (String × String)

def standardHandles : Handles := [("!", "!"), ("!!", "tag:yaml.org,2002:")]

def resolveTag (handles : Handles) (handle suffix : String) : Option String :=
  if handle.isEmpty then some suffix else (Mapping.get? handles handle).map (· ++ suffix)

def properties (handles : Handles) :
    List Token → Option (Option String × Option String × List Token)
  | .anchor name :: .tag handle suffix :: rest => do
    return (some name, some (← resolveTag handles handle suffix), rest)
  | .tag handle suffix :: .anchor name :: rest => do
    return (some name, some (← resolveTag handles handle suffix), rest)
  | .anchor name :: rest => some (some name, none, rest)
  | .tag handle suffix :: rest => do
    return (none, some (← resolveTag handles handle suffix), rest)
  | tokens => some (none, none, tokens)

def isLeftOut (withKeys : Bool) : List Token → Bool
  | .blockEnd :: _ => true
  | .blockEntry :: _ => !withKeys
  | .key :: _ => withKeys
  | .value :: _ => withKeys
  | _ => false

inductive Place where
  | flow
  | block
  | blockEntry
  deriving DecidableEq

mutual

/-- A node and the tokens after it. Every call that takes no token itself is followed by one that
does, so twice the number of tokens bounds the depth of calls. -/
def node (handles : Handles) (place : Place) : Nat → List Token → Option (Node String × List Token)
  | 0, _ => none
  | _ + 1, .alias name :: rest => some (.alias name, rest)
  | limit + 1, tokens => do
    let (anchor, tag, rest) ← properties handles tokens
    match rest with
    | .scalar isPlain text :: rest =>
      return (.scalar anchor (tag.filter (· != "!")) isPlain text, rest)
    | .flowSequence :: rest => do
      let (items, rest) ← flowItems handles true [] limit rest
      return (.sequence anchor tag items, rest)
    | .flowMapping :: rest => do
      let (entries, rest) ← flowEntries handles true [] limit rest
      return (.mapping anchor tag entries, rest)
    | .blockSequence :: rest =>
      if place = .flow then none
      else do
        let (items, rest) ← blockItems handles [] limit rest
        return (.sequence anchor tag items, rest)
    | .blockMapping :: rest =>
      if place = .flow then none
      else do
        let (entries, rest) ← blockEntries handles [] limit rest
        return (.mapping anchor tag entries, rest)
    | .blockEntry :: rest =>
      if place = .blockEntry then do
        let (items, rest) ← flushItems handles [] limit (.blockEntry :: rest)
        return (.sequence anchor tag items, rest)
      else if anchor.isSome || tag.isSome then
        return (.scalar anchor tag true "", .blockEntry :: rest)
      else none
    | rest =>
      if anchor.isSome || tag.isSome then return (.scalar anchor tag true "", rest) else none

def blockItems (handles : Handles) (seen : List (Node String)) :
    Nat → List Token → Option (List (Node String) × List Token)
  | 0, _ => none
  | limit + 1, .blockEntry :: rest =>
    if isLeftOut false rest then blockItems handles (.missing :: seen) limit rest
    else do
      let (item, rest) ← node handles .block limit rest
      blockItems handles (item :: seen) limit rest
  | _ + 1, .blockEnd :: rest => some (seen.reverse, rest)
  | _ + 1, _ => none

def flushItems (handles : Handles) (seen : List (Node String)) :
    Nat → List Token → Option (List (Node String) × List Token)
  | 0, _ => none
  | limit + 1, .blockEntry :: rest =>
    if isLeftOut false rest || isLeftOut true rest then
      flushItems handles (.missing :: seen) limit rest
    else do
      let (item, rest) ← node handles .block limit rest
      flushItems handles (item :: seen) limit rest
  | _ + 1, rest => some (seen.reverse, rest)

def blockEntries (handles : Handles) (seen : List (Node String × Node String)) :
    Nat → List Token → Option (List (Node String × Node String) × List Token)
  | 0, _ => none
  | limit + 1, .key :: rest => do
    let (key, rest) ←
      if isLeftOut true rest then some (.missing, rest)
      else node handles .blockEntry limit rest
    let (value, rest) ← blockValue handles limit rest
    blockEntries handles ((key, value) :: seen) limit rest
  | _ + 1, .blockEnd :: rest => some (seen.reverse, rest)
  | _ + 1, _ => none

def blockValue (handles : Handles) : Nat → List Token → Option (Node String × List Token)
  | 0, _ => none
  | limit + 1, .value :: rest =>
    if isLeftOut true rest then some (.missing, rest) else node handles .blockEntry limit rest
  | _ + 1, rest => some (.missing, rest)

def flowItems (handles : Handles) (isFirst : Bool) (seen : List (Node String)) :
    Nat → List Token → Option (List (Node String) × List Token)
  | 0, _ => none
  | _ + 1, .flowSequenceEnd :: rest => some (seen.reverse, rest)
  | limit + 1, tokens => do
    let tokens ←
      if isFirst then some tokens
      else match tokens with
        | .flowEntry :: rest => some rest
        | _ => none
    match tokens with
    | .flowSequenceEnd :: rest => some (seen.reverse, rest)
    | .key :: rest => do
      let (entry, rest) ← flowPair handles limit rest
      flowItems handles false (.mapping none none [entry] :: seen) limit rest
    | tokens => do
      let (item, rest) ← node handles .flow limit tokens
      flowItems handles false (item :: seen) limit rest

/-- A pair in a sequence, from the token after its key mark. A pair that begins with its colon
loses it, and then has neither key nor value. -/
def flowPair (handles : Handles) :
    Nat → List Token → Option ((Node String × Node String) × List Token)
  | 0, _ => none
  | limit + 1, tokens => do
    let (key, rest) ←
      match tokens with
      | .value :: rest => some (.missing, rest)
      | .flowEntry :: rest => some (.missing, rest)
      | .flowSequenceEnd :: rest => some (.missing, rest)
      | tokens => node handles .flow limit tokens
    match rest with
    | .value :: rest =>
      match rest with
      | .flowEntry :: _ => return ((key, .missing), rest)
      | .flowSequenceEnd :: _ => return ((key, .missing), rest)
      | _ => do
        let (value, rest) ← node handles .flow limit rest
        return ((key, value), rest)
    | rest => return ((key, .missing), rest)

def flowEntries (handles : Handles) (isFirst : Bool) (seen : List (Node String × Node String)) :
    Nat → List Token → Option (List (Node String × Node String) × List Token)
  | 0, _ => none
  | _ + 1, .flowMappingEnd :: rest => some (seen.reverse, rest)
  | limit + 1, tokens => do
    let tokens ←
      if isFirst then some tokens
      else match tokens with
        | .flowEntry :: rest => some rest
        | _ => none
    match tokens with
    | .flowMappingEnd :: rest => some (seen.reverse, rest)
    | .key :: rest => do
      let (key, rest) ←
        match rest with
        | .value :: _ => some (.missing, rest)
        | .flowEntry :: _ => some (.missing, rest)
        | .flowMappingEnd :: _ => some (.missing, rest)
        | _ => node handles .flow limit rest
      let (value, rest) ← flowValue handles limit rest
      flowEntries handles false ((key, value) :: seen) limit rest
    | tokens => do
      let (key, rest) ← node handles .flow limit tokens
      flowEntries handles false ((key, .missing) :: seen) limit rest

def flowValue (handles : Handles) : Nat → List Token → Option (Node String × List Token)
  | 0, _ => none
  | limit + 1, .value :: rest =>
    match rest with
    | .flowEntry :: _ => some (.missing, rest)
    | .flowMappingEnd :: _ => some (.missing, rest)
    | _ => node handles .flow limit rest
  | _ + 1, rest => some (.missing, rest)

end

def directives (hasVersion : Bool) (handles : Handles) :
    List Token → Option (Bool × Handles × List Token)
  | .version major minor :: rest =>
    if hasVersion || major != 1 || (minor != 1 && minor != 2) then none
    else directives true handles rest
  | .tagHandle handle uri :: rest =>
    if handles.any (·.1 == handle) then none
    else directives hasVersion (handles ++ [(handle, uri)]) rest
  | tokens => some (hasVersion, handles, tokens)

def isEmptyDocument : List Token → Bool
  | [] => true
  | .version _ _ :: _ => true
  | .tagHandle _ _ :: _ => true
  | .documentStart :: _ => true
  | .documentEnd :: _ => true
  | _ => false

def skipDocumentEnds : List Token → List Token
  | .documentEnd :: rest => skipDocumentEnds rest
  | tokens => tokens

def documentsFrom (isFirst : Bool) : Nat → List Token → Option (List (Node String))
  | 0, _ => none
  | limit + 1, tokens => do
    let tokens := if isFirst then tokens else skipDocumentEnds tokens
    if tokens.isEmpty then return []
    let (hasVersion, handles, rest) ← directives false [] tokens
    let isImplicit := isFirst && !hasVersion && handles.isEmpty &&
      !(rest matches .documentStart :: _)
    let rest ←
      if isImplicit then some rest
      else match rest with
        | .documentStart :: rest => some rest
        | _ => none
    let (content, rest) ←
      if !isImplicit && isEmptyDocument rest then some (.missing, rest)
      else node (handles ++ standardHandles) .block (2 * rest.length + 2) rest
    let rest :=
      match rest with
      | .documentEnd :: rest => rest
      | rest => rest
    return content :: (← documentsFrom false limit rest)

def documents (tokens : List Token) : Option (List (Node String)) :=
  documentsFrom true (tokens.length + 1) tokens

end TypedClient.Yaml
