import TextSplit.Yaml.Token

/-!
# Nodes of a settings file

Tokens form nodes: texts, sequences, and mappings of nodes.  A node can be given a name and be used
again under it, and it can be given a tag, which says what its text means.

* `Tag` — a tag that was given, or how the meaning is found without one.
* `Node` — the nodes.
* `Node.ofTokens` — the node of a settings file that holds one document, if it holds one.
-/

namespace TextSplit.Yaml

/-- What says the meaning of a node. -/
inductive Tag where
  /-- The node speaks for itself: a plain text is looked at, all else is what it looks like. -/
  | implicit
  /-- A text that is a text whatever it looks like. -/
  | quoted
  | given (name : String)
  deriving DecidableEq, Repr, Inhabited

/-- A part of a settings file. -/
inductive Node where
  | scalar (tag : Tag) (text : List Char)
  | sequence (tag : Tag) (items : List Node)
  | mapping (tag : Tag) (entries : List (Node × Node))
  deriving Inhabited

namespace Node

/-- The node in a place where nothing stands. -/
def empty : Node := .scalar .implicit []

/-- What is read of the tokens: those left, and the named nodes. -/
structure State where
  tokens : List Token
  anchors : List (String × Node)
  deriving Inhabited

/-- The token that comes next; the end of the file comes again and again. -/
def State.peek (s : State) : Token := s.tokens.headD .streamEnd

/-- Behind the next token. -/
def State.next (s : State) : State := { s with tokens := s.tokens.tail }

/-- Names a node. -/
def State.bind (s : State) (anchor : Option String) (n : Node) : State :=
  match anchor with
  | some name => { s with
      anchors := (name, n) :: s.anchors.filter fun (other, _) => other != name }
  | none => s

/-- The short forms that hold in every document. -/
def standardHandles : List (String × String) := [("!", "!"), ("!!", "tag:yaml.org,2002:")]

/-- The tag behind a short form. -/
def tagOf (handles : List (String × String)) (handle : Option String) (suffix : String) :
    Except Fault Tag :=
  match handle with
  | none => .ok (if suffix == "!" then .implicit else .given suffix)
  | some handle =>
    match handles.lookup handle with
    | some start => .ok (.given (start ++ suffix))
    | none => refuse

/-- The name and the tag in front of a node, in either order. -/
structure Properties where
  anchor : Option String
  /-- Whether any tag is given, also the one that says nothing. -/
  hasTag : Bool
  tag : Tag
  deriving Inhabited

/-- Reads the name and the tag in front of a node. -/
def properties (handles : List (String × String)) (s : State) : Except Fault (Properties × State) :=
  match s.peek with
  | .anchor name =>
    match s.next.peek with
    | .tag handle suffix => do
      let tag ← tagOf handles handle suffix
      return (⟨some name, true, tag⟩, s.next.next)
    | _ => .ok (⟨some name, false, .implicit⟩, s.next)
  | .tag handle suffix => do
    let tag ← tagOf handles handle suffix
    match s.next.peek with
    | .anchor name => return (⟨some name, true, tag⟩, s.next.next)
    | _ => return (⟨none, true, tag⟩, s.next)
  | _ => .ok (⟨none, false, .implicit⟩, s)

/-- Where a node stands, which decides what it can be. -/
inductive Setting where
  /-- Between brackets. -/
  | flow
  /-- In a block. -/
  | block
  /-- As a part of a block mapping, where a sequence need not be indented. -/
  | blockPart
  deriving DecidableEq, Repr, Inhabited

mutual

/-- Reads a node. -/
def node (handles : List (String × String)) (setting : Setting) :
    Nat → State → Except Fault (Node × State)
  | 0, _ => refuse
  | fuel + 1, s =>
    match s.peek with
    | .alias name =>
      match s.anchors.lookup name with
      | some n => .ok (n, s.next)
      | none => refuse
    | _ => do
      let (p, s) ← properties handles s
      if (p.anchor.bind fun name => s.anchors.lookup name).isSome then refuse
      else
        -- the name holds inside the node already, where nothing is known of it yet
        let s := s.bind p.anchor empty
        let (n, s) ← body handles setting fuel p s
        return (n, s.bind p.anchor n)

/-- Reads what follows the name and the tag of a node. -/
def body (handles : List (String × String)) (setting : Setting) :
    Nat → Properties → State → Except Fault (Node × State)
  | 0, _, _ => refuse
  | fuel + 1, p, s =>
    match s.peek, setting with
    | .blockEntry, .blockPart => do
      let (items, s) ← looseItems handles fuel s
      return (.sequence p.tag items, s)
    | .scalar text isPlain, _ =>
      let tag := if isPlain || p.hasTag then p.tag else .quoted
      .ok (.scalar tag text, s.next)
    | .flowSequence, _ => do
      let (items, s) ← flowItems handles fuel true s.next
      return (.sequence p.tag items, s)
    | .flowMapping, _ => do
      let (entries, s) ← flowEntries handles fuel true s.next
      return (.mapping p.tag entries, s)
    | .blockSequence, .block | .blockSequence, .blockPart => do
      let (items, s) ← blockItems handles fuel s.next
      return (.sequence p.tag items, s)
    | .blockMapping, .block | .blockMapping, .blockPart => do
      let (entries, s) ← blockEntries handles fuel s.next
      return (.mapping p.tag entries, s)
    | _, _ =>
      if p.anchor.isSome || p.hasTag then .ok (.scalar p.tag [], s) else refuse

/-- Reads the items of a sequence in a block, and its end. -/
def blockItems (handles : List (String × String)) :
    Nat → State → Except Fault (List Node × State)
  | 0, _ => refuse
  | fuel + 1, s =>
    match s.peek with
    | .blockEntry => do
      let (n, s) ← match s.next.peek with
        | .blockEntry | .blockEnd => pure (empty, s.next)
        | _ => node handles .block fuel s.next
      let (more, s) ← blockItems handles fuel s
      return (n :: more, s)
    | .blockEnd => .ok ([], s.next)
    | _ => refuse

/-- Reads the items of a sequence that is not indented, which ends where no item follows. -/
def looseItems (handles : List (String × String)) :
    Nat → State → Except Fault (List Node × State)
  | 0, _ => refuse
  | fuel + 1, s =>
    match s.peek with
    | .blockEntry => do
      let (n, s) ← match s.next.peek with
        | .blockEntry | .key | .value | .blockEnd => pure (empty, s.next)
        | _ => node handles .block fuel s.next
      let (more, s) ← looseItems handles fuel s
      return (n :: more, s)
    | _ => .ok ([], s)

/-- Reads a key or a value of a mapping in a block. -/
def blockPart (handles : List (String × String)) : Nat → State → Except Fault (Node × State)
  | 0, _ => refuse
  | fuel + 1, s =>
    match s.peek with
    | .key | .value | .blockEnd => .ok (empty, s)
    | _ => node handles .blockPart fuel s

/-- Reads the entries of a mapping in a block, and its end. -/
def blockEntries (handles : List (String × String)) :
    Nat → State → Except Fault (List (Node × Node) × State)
  | 0, _ => refuse
  | fuel + 1, s =>
    match s.peek with
    | .key => do
      let (k, s) ← blockPart handles fuel s.next
      let (v, s) ← match s.peek with
        | .value => blockPart handles fuel s.next
        | _ => pure (empty, s)
      let (more, s) ← blockEntries handles fuel s
      return ((k, v) :: more, s)
    | .blockEnd => .ok ([], s.next)
    | _ => refuse

/-- Reads a key or a value between brackets, which may be missing. -/
def flowPart (handles : List (String × String)) (closing : Token) :
    Nat → State → Except Fault (Node × State)
  | 0, _ => refuse
  | fuel + 1, s =>
    if s.peek == .value || s.peek == .flowEntry || s.peek == closing then .ok (empty, s)
    else node handles .flow fuel s

/-- Reads the value behind a key between brackets. -/
def flowValue (handles : List (String × String)) (closing : Token) :
    Nat → State → Except Fault (Node × State)
  | 0, _ => refuse
  | fuel + 1, s =>
    if s.peek == .value then
      if s.next.peek == .flowEntry || s.next.peek == closing then .ok (empty, s.next)
      else node handles .flow fuel s.next
    else .ok (empty, s)

/-- Reads the items of a sequence between brackets, and the closing bracket.  An item may be a
mapping with one entry. -/
def flowItems (handles : List (String × String)) :
    Nat → Bool → State → Except Fault (List Node × State)
  | 0, _, _ => refuse
  | fuel + 1, isFirst, s =>
    if s.peek == .flowSequenceEnd then .ok ([], s.next)
    else if !isFirst && s.peek != .flowEntry then refuse
    else
      let s := if isFirst then s else s.next
      if s.peek == .key then do
        let (k, s) ← flowPart handles .flowSequenceEnd fuel s.next
        let (v, s) ← flowValue handles .flowSequenceEnd fuel s
        let (more, s) ← flowItems handles fuel false s
        return (.mapping .implicit [(k, v)] :: more, s)
      else if s.peek == .flowSequenceEnd then .ok ([], s.next)
      else do
        let (n, s) ← node handles .flow fuel s
        let (more, s) ← flowItems handles fuel false s
        return (n :: more, s)

/-- Reads the entries of a mapping between brackets, and the closing bracket. -/
def flowEntries (handles : List (String × String)) :
    Nat → Bool → State → Except Fault (List (Node × Node) × State)
  | 0, _, _ => refuse
  | fuel + 1, isFirst, s =>
    if s.peek == .flowMappingEnd then .ok ([], s.next)
    else if !isFirst && s.peek != .flowEntry then refuse
    else
      let s := if isFirst then s else s.next
      if s.peek == .key then do
        let (k, s) ← flowPart handles .flowMappingEnd fuel s.next
        let (v, s) ← flowValue handles .flowMappingEnd fuel s
        let (more, s) ← flowEntries handles fuel false s
        return ((k, v) :: more, s)
      else if s.peek == .flowMappingEnd then .ok ([], s.next)
      else do
        let (n, s) ← node handles .flow fuel s
        let (more, s) ← flowEntries handles fuel false s
        return ((n, empty) :: more, s)

end

/-! ## Documents -/

/-- The short forms that the instructions of a document add; the version has to be the first. -/
def directives : Bool → List (String × String) → List Token →
    Except Fault (List (String × String) × List Token)
  | hasVersion, handles, .directive (.version major) :: rest =>
    if hasVersion || major != 1 then refuse else directives true handles rest
  | hasVersion, handles, .directive (.tagPrefix handle start) :: rest =>
    if (handles.lookup handle).isSome then refuse
    else directives hasVersion ((handle, start) :: handles) rest
  | hasVersion, handles, .directive .other :: rest => directives hasVersion handles rest
  | _, handles, rest => .ok (handles ++ standardHandles, rest)

/-- Nothing may follow a document but marks that end it. -/
def checkEnd (tokens : List Token) : Except Fault Unit :=
  if tokens.dropWhile (· == .documentEnd) == [.streamEnd] then .ok () else refuse

/-- The node of a settings file. -/
def ofTokens (tokens : List Token) : Except Fault (Option Node) := do
  let fuel := 4 * tokens.length + 8
  match tokens with
  | [.streamEnd] => return none
  | .directive _ :: _ | .documentStart :: _ =>
    let (handles, rest) ← directives false [] tokens
    match rest with
    | .documentStart :: rest =>
      let s : State := ⟨rest, []⟩
      match s.peek with
      | .directive _ | .documentStart | .documentEnd | .streamEnd =>
        checkEnd s.tokens
        return some empty
      | _ =>
        let (n, s) ← node handles .block fuel s
        checkEnd s.tokens
        return some n
    | _ => refuse
  | _ =>
    let (n, s) ← node standardHandles .block fuel ⟨tokens, []⟩
    checkEnd s.tokens
    return some n

end Node

end TextSplit.Yaml
