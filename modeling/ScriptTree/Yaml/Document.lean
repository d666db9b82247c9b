import ScriptTree.Text.Read
import ScriptTree.Yaml

/-!
# Documents

A document is one node, with directives and marks around it.  A node is a
reference, or it is a scalar or a collection with an anchor and a tag in front of
it, in any order.  Where a node is wanted and only an anchor or a tag is written,
or nothing at all between two marks, the node is absent.

A sequence under a name needs no column of its own; it is `compact` and ends where
no dash follows.
-/

namespace ScriptTree.Yaml

/-- What the handles of tags stand for. -/
abbrev Handles := List (List Char × List Char)

/-- The handles that need no directive. -/
def standardHandles : Handles :=
  [(['!'], ['!']), (['!', '!'], "tag:yaml.org,2002:".toList)]

/-- The text of a tag, if its handle is known. -/
def tagText (handles : Handles) (handle suffix : List Char) : Option String :=
  if handle.isEmpty then
    some (String.ofList (upToZero suffix))
  else
    (handles.lookup handle).map fun replacement =>
      String.ofList (upToZero replacement ++ upToZero suffix)

/-- What stands in front of a node. -/
structure Properties where
  anchor : Option Nat := none
  tag : Option String := none

namespace Properties

/-- The properties at the front, and the tokens after them. -/
def read? (handles : Handles) : List Token → Option (Properties × List Token)
  | .anchor number :: .tag handle suffix :: rest =>
    (tagText handles handle suffix).map fun tag => (⟨some number, some tag⟩, rest)
  | .anchor number :: rest => some (⟨some number, none⟩, rest)
  | .tag handle suffix :: .anchor number :: rest =>
    (tagText handles handle suffix).map fun tag => (⟨some number, some tag⟩, rest)
  | .tag handle suffix :: rest =>
    (tagText handles handle suffix).map fun tag => (⟨none, some tag⟩, rest)
  | rest => some (⟨none, none⟩, rest)

/-- Properties take no tokens that are not there. -/
theorem length_le_of_read? {handles : Handles} {input rest : List Token}
    {properties : Properties} (read : read? handles input = some (properties, rest)) :
    rest.length ≤ input.length := by
  unfold read? at read
  split at read
  case h_5 =>
    cases read
    exact Nat.le_refl _
  case h_2 =>
    cases read
    exact Nat.le_succ _
  all_goals
    obtain ⟨_, -, put⟩ := Option.map_eq_some_iff.1 read
    obtain ⟨-, rfl⟩ := Prod.mk.inj put
    simp only [List.length_cons]
    omega

/-- Whether nothing stands in front of the node. -/
def isEmpty (properties : Properties) : Bool :=
  properties.anchor.isNone && properties.tag.isNone

/-- A node with properties takes at least one token for them. -/
theorem length_lt_of_read? {handles : Handles} {input rest : List Token}
    {properties : Properties} (read : read? handles input = some (properties, rest))
    (nonempty : properties.isEmpty = false) : rest.length < input.length := by
  unfold read? at read
  split at read
  case h_5 =>
    cases read
    cases nonempty
  case h_2 =>
    cases read
    exact Nat.lt_succ_self _
  all_goals
    obtain ⟨_, -, put⟩ := Option.map_eq_some_iff.1 read
    obtain ⟨-, rfl⟩ := Prod.mk.inj put
    simp only [List.length_cons]
    omega

/-- A node with its anchor. -/
def label (properties : Properties) (node : Yaml) : Yaml :=
  match properties.anchor with
  | none => node
  | some number => .anchored number node

end Properties

/-- Where a node stands. -/
inductive Setting where
  /-- Between brackets. -/
  | flow
  /-- In a block. -/
  | block
  /-- In a block, under a name. -/
  | named
deriving DecidableEq

/-- Whether the content of a node starts with a token. -/
def Setting.admits (setting : Setting) : List Token → Bool
  | .scalar _ _ :: _ | .openBracket :: _ | .openBrace :: _ => true
  | .sequenceStart :: _ | .mappingStart :: _ => setting ≠ .flow
  | .dash :: _ => setting = .named
  | _ => false

/-- Whether a token ends the item of a sequence. -/
def endsItem : Token → Bool
  | .dash | .blockEnd => true
  | _ => false

/-- Whether a token ends the name or the value of an entry. -/
def endsPart : Token → Bool
  | .key | .value | .blockEnd => true
  | _ => false

/-- Whether a token ends an item of a sequence that is not indented. -/
def endsCompactItem (token : Token) : Bool :=
  token = .dash || endsPart token

/-- Whether the value of an entry ends between brackets. -/
def endsFlowValue (closing token : Token) : Bool :=
  token = .comma || token = closing

/-- Whether the name of an entry ends between brackets. -/
def endsFlowName (closing token : Token) : Bool :=
  token = .value || endsFlowValue closing token

mutual

/-- Reads a node, with its tag and its anchor in front. -/
def readNode (handles : Handles) (setting : Setting) (input : List Token) :
    Option (Read input Yaml) :=
  match input with
  | .reference number :: rest => some (.after (.reference number) rest (Nat.le_refl _))
  | input =>
    match same : Properties.read? handles input with
    | none => none
    | some (properties, rest) =>
      have bound := Properties.length_le_of_read? same
      if setting.admits rest then
        (readContent handles properties.tag rest).map fun read =>
          (read.map properties.label).within bound
      else if nonempty : properties.isEmpty = false then
        some
          ⟨properties.label (.scalar .plain properties.tag ""), rest,
            Properties.length_lt_of_read? same nonempty⟩
      else
        none
termination_by 4 * input.length + 1

/-- A scalar or a collection; a lone exclamation mark is no tag of a scalar. -/
def readContent (handles : Handles) (tag : Option String) (input : List Token) :
    Option (Read input Yaml) :=
  match input with
  | .scalar style text :: rest =>
    some (.after (.scalar style (tag.filter (· ≠ "!")) text) rest (Nat.le_refl _))
  | .openBracket :: rest =>
    (readFlowItems handles rest).map fun read => (read.map .sequence).within (Nat.le_succ _)
  | .openBrace :: rest =>
    (readFlowEntries handles rest).map fun read => (read.map .mapping).within (Nat.le_succ _)
  | .sequenceStart :: rest =>
    (readItems handles rest).map fun read => (read.map .sequence).within (Nat.le_succ _)
  | .mappingStart :: rest =>
    (readEntries handles rest).map fun read => (read.map .mapping).within (Nat.le_succ _)
  | .dash :: rest =>
    (readCompactItems handles rest).map fun scan =>
      .after (.sequence scan.value) scan.rest scan.bound
  | _ => none
termination_by 4 * input.length

/-- A node, which is absent if a token that ends it comes next. -/
def readPart (handles : Handles) (setting : Setting) (ends : Token → Bool) (input : List Token) :
    Option (Scan input Yaml) :=
  if input.head?.any ends then some ⟨.absent, input, Nat.le_refl _⟩
  else (readNode handles setting input).map Read.toScan
termination_by 4 * input.length + 2

/-- The value of an entry after its name. -/
def readValue (handles : Handles) (setting : Setting) (ends : Token → Bool) (input : List Token) :
    Option (Scan input Yaml) :=
  match input with
  | .value :: rest =>
    (readPart handles setting ends rest).map fun scan =>
      ⟨scan.value, scan.rest, Nat.le_succ_of_le scan.bound⟩
  | input => some ⟨.absent, input, Nat.le_refl _⟩
termination_by 4 * input.length

/-- The items of a sequence in block form, up to its end. -/
def readItems (handles : Handles) (input : List Token) : Option (Read input (List Yaml)) :=
  match input with
  | .blockEnd :: rest => some (.after [] rest (Nat.le_refl _))
  | .dash :: rest =>
    match readPart handles .block endsItem rest with
    | none => none
    | some ⟨item, afterItem, bound⟩ =>
      (readItems handles afterItem).map fun read =>
        .after (item :: read.value) read.rest (Nat.le_trans (Nat.le_of_lt read.shorter) bound)
  | _ => none
termination_by 4 * input.length

/-- The items of a compact sequence after its first dash. -/
def readCompactItems (handles : Handles) (input : List Token) : Option (Scan input (List Yaml)) :=
  match readPart handles .block endsCompactItem input with
  | none => none
  | some ⟨item, afterItem, bound⟩ =>
    match afterItem with
    | .dash :: rest =>
      (readCompactItems handles rest).map fun scan =>
        ⟨item :: scan.value, scan.rest, Nat.le_trans (Nat.le_succ_of_le scan.bound) bound⟩
    | afterItem => some ⟨[item], afterItem, bound⟩
termination_by 4 * input.length + 3

/-- The entries of a mapping in block form, up to its end. -/
def readEntries (handles : Handles) (input : List Token) :
    Option (Read input (List (Yaml × Yaml))) :=
  match input with
  | .blockEnd :: rest => some (.after [] rest (Nat.le_refl _))
  | .key :: rest =>
    match readPart handles .named endsPart rest with
    | none => none
    | some ⟨name, afterName, nameBound⟩ =>
      match readValue handles .named endsPart afterName with
      | none => none
      | some ⟨value, afterValue, valueBound⟩ =>
        (readEntries handles afterValue).map fun read =>
          .after ((name, value) :: read.value) read.rest (by
            have := read.shorter
            omega)
  | _ => none
termination_by 4 * input.length

/-- The items between brackets, up to the closing one. -/
def readFlowItems (handles : Handles) (input : List Token) : Option (Read input (List Yaml)) :=
  match input with
  | .closeBracket :: rest => some (.after [] rest (Nat.le_refl _))
  | input =>
    match readFlowItem handles input with
    | none => none
    | some ⟨item, afterItem, shorter⟩ =>
      match afterItem with
      | .closeBracket :: rest => some ⟨[item], rest, Nat.lt_of_succ_lt shorter⟩
      | .comma :: rest =>
        have shorter : rest.length < input.length := Nat.lt_of_succ_lt shorter
        (readFlowItems handles rest).map fun read =>
          ⟨item :: read.value, read.rest, Nat.lt_trans read.shorter shorter⟩
      | _ => none
termination_by 4 * input.length + 3

/-- A node between brackets, or an entry, which stands for a mapping of its own. -/
def readFlowItem (handles : Handles) (input : List Token) : Option (Read input Yaml) :=
  match input with
  | .key :: rest =>
    match readFlowName handles rest with
    | none => none
    | some ⟨name, afterName, nameBound⟩ =>
      (readValue handles .flow (endsFlowValue .closeBracket) afterName).map fun scan =>
        .after (.mapping [(name, scan.value)]) scan.rest (Nat.le_trans scan.bound nameBound)
  | input => readNode handles .flow input
termination_by 4 * input.length + 2

/-- The name of an entry between brackets.  Where it is absent the token after it is passed
over. -/
def readFlowName (handles : Handles) (input : List Token) : Option (Scan input Yaml) :=
  match input with
  | [] => none
  | token :: rest =>
    if endsFlowName .closeBracket token then some ⟨.absent, rest, Nat.le_succ _⟩
    else (readNode handles .flow (token :: rest)).map Read.toScan
termination_by 4 * input.length + 2

/-- The entries between braces, up to the closing one. -/
def readFlowEntries (handles : Handles) (input : List Token) :
    Option (Read input (List (Yaml × Yaml))) :=
  match input with
  | .closeBrace :: rest => some (.after [] rest (Nat.le_refl _))
  | input =>
    match readFlowEntry handles input with
    | none => none
    | some ⟨entry, afterEntry, shorter⟩ =>
      match afterEntry with
      | .closeBrace :: rest => some ⟨[entry], rest, Nat.lt_of_succ_lt shorter⟩
      | .comma :: rest =>
        have shorter : rest.length < input.length := Nat.lt_of_succ_lt shorter
        (readFlowEntries handles rest).map fun read =>
          ⟨entry :: read.value, read.rest, Nat.lt_trans read.shorter shorter⟩
      | _ => none
termination_by 4 * input.length + 3

/-- An entry between braces; without a mark in front of it, and without a colon after it, it is a
name alone. -/
def readFlowEntry (handles : Handles) (input : List Token) : Option (Read input (Yaml × Yaml)) :=
  match input with
  | .key :: rest =>
    match readPart handles .flow (endsFlowName .closeBrace) rest with
    | none => none
    | some ⟨name, afterName, nameBound⟩ =>
      (readValue handles .flow (endsFlowValue .closeBrace) afterName).map fun scan =>
        .after (name, scan.value) scan.rest (Nat.le_trans scan.bound nameBound)
  | input => (readNode handles .flow input).map fun read => read.map (·, .absent)
termination_by 4 * input.length + 2

end

/-- The handles that the directives of a document define, and the tokens after the directives.
There is one version at most, and it is 1.1 or 1.2; no handle is defined twice. -/
def readDirectives (hasVersion : Bool) (handles : Handles) :
    List Token → Option (Handles × List Token)
  | .version major minor :: rest =>
    if hasVersion || major ≠ 1 || (minor ≠ 1 && minor ≠ 2) then none
    else readDirectives true handles rest
  | .handle name replacement :: rest =>
    if (handles.lookup name).isSome then none
    else readDirectives hasVersion (handles ++ [(name, replacement)]) rest
  | rest => some (handles ++ standardHandles, rest)

/-- Whether a document starts with directives or a mark. -/
def opensDocument : Token → Bool
  | .version _ _ | .handle _ _ | .documentStart => true
  | _ => false

/-- Whether a document ends where a token comes next. -/
def endsDocument (rest : List Token) : Bool :=
  match rest with
  | [] => true
  | token :: _ => token = .documentEnd || opensDocument token

/-- The root of a document, if nothing but marks of its end follows. -/
def finishDocument (root : Yaml) (rest : List Token) : Option Yaml :=
  if (rest.dropWhile (· = .documentEnd)).isEmpty then some root else none

/-- The root of the only document among some tokens; it is absent where there are none. -/
def document? (tokens : List Token) : Option Yaml :=
  if tokens.isEmpty then
    some .absent
  else if tokens.head?.any opensDocument then
    match readDirectives false [] tokens with
    | some (handles, .documentStart :: rest) =>
      if endsDocument rest then finishDocument .absent rest
      else (readNode handles .block rest).bind fun read => finishDocument read.value read.rest
    | _ => none
  else
    (readNode standardHandles .block tokens).bind fun read => finishDocument read.value read.rest

end ScriptTree.Yaml
