import ScriptTree.Format.SExpression
import ScriptTree.Proofs.Node.Captions
import ScriptTree.Proofs.Node.Fields
import ScriptTree.Proofs.Text.Read

/-!
# Reading S-expressions

An S-expression tells the kinds of a tree, the fields of its children and which nodes
are missing, and nothing else.  All of that is read back from it: a kind or a field
ends at the first character that no name has, an opening mark is the beginning of no
kind, and a field that is not written is the only one that the kind has.  An
S-expression ends at its closing parenthesis, so that no S-expression is the beginning
of another one.
-/

namespace ScriptTree

/-- What an S-expression tells: the kinds, the missing nodes, and the fields of the children. -/
inductive Skeleton where
  | mk (kind : NodeKind) (isMissing : Bool) (children : List (Field × Skeleton))

namespace Node

mutual

/-- What a nested expression keeps of a node: its kind, whether it is missing, and its children. -/
def skeleton : Node → Skeleton
  | .mk content range tokens children =>
    .mk content.kind (Node.mk content range tokens children).isMissing (forestSkeletons children)

/-- What a nested expression keeps of children, each under its field. -/
def forestSkeletons : List (Field × Node) → List (Field × Skeleton)
  | [] => []
  | (field, child) :: rest => (field, child.skeleton) :: forestSkeletons rest

end

end Node

namespace Skeleton

/-! ## The reader -/

/-- Characters that end the name of a kind or a field. -/
def endsName (character : Char) : Bool :=
  character = ' ' || character = ':' || character = ')'

/-- The name at the front of a text. -/
def name (text : List Char) : String :=
  String.ofList (text.takeWhile (!endsName ·))

/-- What follows the name at the front of a text. -/
def afterName (text : List Char) : List Char :=
  text.dropWhile (!endsName ·)

theorem length_afterName_le (text : List Char) : (afterName text).length ≤ text.length :=
  (List.dropWhile_suffix _).length_le

/-- Whether a text begins with the mark of a missing node, and the text behind the mark. -/
def readMark : List Char → Bool × List Char
  | 'M' :: 'I' :: 'S' :: 'S' :: 'I' :: 'N' :: 'G' :: ' ' :: rest => (true, rest)
  | text => (false, text)

theorem length_readMark_le (text : List Char) : (readMark text).2.length ≤ text.length := by
  fun_cases readMark text with
  | case1 rest => exact Nat.le_add_right _ 8
  | case2 => exact Nat.le_refl _

/-- The kind of a node behind its opening parenthesis, and whether it is marked as missing. -/
def readHead (text : List Char) : Option (NodeKind × Bool × List Char) :=
  let (isMissing, marked) := readMark text
  (NodeKind.ofLabel? (name marked)).map fun kind => (kind, isMissing, afterName marked)

/-- The head of a node takes no characters that are not there. -/
theorem length_le_of_readHead {text rest : List Char} {kind : NodeKind} {isMissing : Bool}
    (read : readHead text = some (kind, isMissing, rest)) : rest.length ≤ text.length := by
  rcases Option.map_eq_some_iff.mp read with ⟨_, -, same⟩
  cases same
  exact (length_afterName_le _).trans (length_readMark_le _)

/-- The field of a child, which is the only one of its kind if it is not written. -/
def readField (kind : NodeKind) (text : List Char) : Option (Field × List Char) :=
  if kind.isList then
    kind.fields.head?.map fun field => (field, text)
  else
    match afterName text with
    | ':' :: ' ' :: rest => (Field.ofLabel? (name text)).map fun field => (field, rest)
    | _ => none

/-- The field of a child takes no characters that are not there. -/
theorem length_le_of_readField {kind : NodeKind} {text rest : List Char} {field : Field}
    (read : readField kind text = some (field, rest)) : rest.length ≤ text.length := by
  unfold readField at read
  split at read
  · rcases Option.map_eq_some_iff.mp read with ⟨_, -, same⟩
    cases same
    exact Nat.le_refl _
  · split at read
    · rename_i named
      rcases Option.map_eq_some_iff.mp read with ⟨_, -, same⟩
      cases same
      have shorter := length_afterName_le text
      rw [named] at shorter
      simp only [List.length_cons] at shorter
      omega
    · cases read

mutual

/-- An S-expression at the front of a text. -/
def readTree : (input : List Char) → Option (Read input Skeleton)
  | '(' :: text =>
    match head : readHead text with
    | none => none
    | some (kind, isMissing, afterHead) =>
      have bound := length_le_of_readHead head
      match readChildren kind afterHead with
      | none => none
      | some children =>
        some (.after (.mk kind isMissing children.value) children.rest
          (children.bound.trans bound))
  | _ => none
termination_by input => input.length
decreasing_by exact Nat.lt_succ_of_le bound

/-- The children of a node behind its head, up to its closing parenthesis. -/
def readChildren (kind : NodeKind) :
    (input : List Char) → Option (Scan input (List (Field × Skeleton)))
  | ')' :: rest => some ⟨[], rest, Nat.le_succ _⟩
  | ' ' :: text =>
    match written : readField kind text with
    | none => none
    | some (field, inner) =>
      have bound := length_le_of_readField written
      match readTree inner with
      | none => none
      | some child =>
        have shorter := child.shorter
        match readChildren kind child.rest with
        | none => none
        | some children =>
          some ⟨(field, child.value) :: children.value, children.rest,
            children.bound.trans (by simp only [List.length_cons]; omega)⟩
  | _ => none
termination_by input => input.length
decreasing_by all_goals simp only [List.length_cons]; omega

end

/-- What an S-expression tells, if a text is one. -/
def ofText? (text : String) : Option Skeleton :=
  match Read.outcome? (readTree text.toList) with
  | some (tree, []) => some tree
  | _ => none

/-! ## Names and marks -/

/-- A label is read as the name at the front of a text that goes on with something else. -/
theorem name_append {label : String} (whole : label.toList.all (!endsName ·) = true)
    {rest : List Char} (ends : ∀ next ∈ rest.head?, endsName next = true) :
    name (label.toList ++ rest) = label ∧ afterName (label.toList ++ rest) = rest := by
  have goesOn := List.all_eq_true.mp whole
  have stops : rest.takeWhile (!endsName ·) = [] ∧ rest.dropWhile (!endsName ·) = rest := by
    cases rest with
    | nil => exact ⟨rfl, rfl⟩
    | cons next rest =>
      have ended := ends next rfl
      simp [ended]
  rw [name, afterName, List.takeWhile_append_of_pos goesOn, List.dropWhile_append_of_pos goesOn,
    stops.1, stops.2, List.append_nil, String.ofList_toList]
  exact ⟨rfl, rfl⟩

theorem all_label_kind (kind : NodeKind) : kind.label.toList.all (!endsName ·) = true := by
  cases kind <;> decide

theorem all_label_field (field : Field) : field.label.toList.all (!endsName ·) = true := by
  cases field <;> decide

/-- No kind begins with the mark of a missing node. -/
theorem readMark_kind (kind : NodeKind) (rest : List Char) :
    readMark (kind.label.toList ++ rest) = (false, kind.label.toList ++ rest) := by
  cases kind <;> rfl

/-- The head of a node is read back as its kind and whether it is missing. -/
theorem readHead_sexpHead (node : Node) {rest : List Char}
    (ends : ∀ next ∈ rest.head?, endsName next = true) :
    ∃ text, node.sexpHead ++ rest = '(' :: text ∧
      readHead text = some (node.kind, node.isMissing, rest) := by
  refine ⟨_, rfl, ?_⟩
  have named := name_append (all_label_kind node.kind) ends
  cases node.isMissing with
  | false =>
    simp [readHead, readMark_kind, named.1, named.2, NodeKind.ofLabel?_label]
  | true =>
    simp [readHead, readMark, named.1, named.2, NodeKind.ofLabel?_label]

/-- A field is read back whether it is written or not. -/
theorem readField_label {kind : NodeKind} {field : Field} (filed : field ∈ kind.fields)
    (rest : List Char) :
    readField kind ((if kind.isList then [] else field.label.toList ++ [':', ' ']) ++ rest) =
      some (field, rest) := by
  unfold readField
  by_cases list : kind.isList = true
  · rw [if_pos list, if_pos list, NodeKind.head?_fields list filed]
    rfl
  · have ends : ∀ next ∈ ([':', ' '] ++ rest).head?, endsName next = true := by
      rintro _ ⟨⟩
      rfl
    have named := name_append (all_label_field field) ends
    rw [if_neg list, if_neg list, List.append_assoc, named.1, named.2, Field.ofLabel?_label]
    rfl

/-! ## One step of the reader -/

section

variable {text afterHead inner after rest : List Char} {kind : NodeKind} {isMissing : Bool}
  {field : Field} {child : Skeleton}

/-- A tree is its head and its children. -/
theorem outcome?_readTree (head : readHead text = some (kind, isMissing, afterHead)) :
    Read.outcome? (readTree ('(' :: text)) =
      (Scan.outcome? (readChildren kind afterHead)).map fun (children, rest) =>
        (.mk kind isMissing children, rest) := by
  rw [readTree]
  split
  · rename_i none
    rw [head] at none
    cases none
  · rename_i found
    rw [head] at found
    cases found
    cases readChildren kind afterHead <;> rfl

/-- A closing parenthesis ends the children. -/
theorem outcome?_readChildren_close :
    Scan.outcome? (readChildren kind (')' :: rest)) = some ([], rest) := by
  rw [readChildren]
  rfl

/-- A blank goes before a child, with its field if the children have fields. -/
theorem outcome?_readChildren_blank (written : readField kind text = some (field, inner))
    (read : Read.outcome? (readTree inner) = some (child, after)) :
    Scan.outcome? (readChildren kind (' ' :: text)) =
      (Scan.outcome? (readChildren kind after)).map fun (children, rest) =>
        ((field, child) :: children, rest) := by
  rcases Read.outcome?_eq_some_iff.mp read with ⟨shorter, tree⟩
  rw [readChildren]
  split
  · rename_i none
    rw [written] at none
    cases none
  · rename_i found
    rw [written] at found
    cases found
    rw [tree]
    dsimp only
    cases readChildren kind after <;> rfl

end

/-! ## Reading back -/

mutual

/-- What an S-expression tells is read back from it, whatever follows it. -/
theorem outcome?_readTree_sexpText (node : Node) (filed : Node.Every Node.IsFiled [node])
    (rest : List Char) :
    Read.outcome? (readTree (node.sexpText ++ rest)) = some (node.skeleton, rest) := by
  match node with
  | .mk content range tokens children =>
    rw [Node.every_singleton] at filed
    have listed := outcome?_readChildren_sexpChildren content.kind children filed.1 filed.2 rest
    -- The kind ends at the blank of the first child or at the closing parenthesis.
    have ends : ∀ next ∈ (Node.sexpChildren content.kind.isList children ++ (')' :: rest)).head?,
        endsName next = true := by
      cases children <;> (rintro _ ⟨⟩; rfl)
    rcases readHead_sexpHead (.mk content range tokens children) ends with ⟨text, opens, head⟩
    rw [Node.sexpText, List.append_assoc, List.append_assoc, List.singleton_append, opens,
      outcome?_readTree head]
    exact congrArg (Option.map _) listed

/-- Children are read back up to the parenthesis behind them. -/
theorem outcome?_readChildren_sexpChildren (kind : NodeKind) (children : List (Field × Node))
    (filed : ∀ entry ∈ children, entry.1 ∈ kind.fields)
    (below : Node.Every Node.IsFiled (children.map (·.2))) (rest : List Char) :
    Scan.outcome? (readChildren kind (Node.sexpChildren kind.isList children ++ ')' :: rest)) =
      some (Node.forestSkeletons children, rest) := by
  match children with
  | [] => exact outcome?_readChildren_close
  | (field, child) :: later =>
    rw [List.forall_mem_cons] at filed
    rw [List.map_cons, Node.every_cons] at below
    have tree := outcome?_readTree_sexpText child below.1
      (Node.sexpChildren kind.isList later ++ ')' :: rest)
    have more := outcome?_readChildren_sexpChildren kind later filed.2 below.2 rest
    rw [Node.sexpChildren, List.cons_append, List.append_assoc, List.append_assoc,
      outcome?_readChildren_blank (readField_label filed.1 _) tree, more]
    rfl

end

/-- A nested expression is read back as the skeleton of its node. -/
theorem ofText?_sexp {node : Node} (filed : Node.Every Node.IsFiled [node]) :
    ofText? node.sexp = some node.skeleton := by
  have read := outcome?_readTree_sexpText node filed []
  rw [List.append_nil] at read
  rw [ofText?, Node.sexp, String.toList_ofList, read]

end Skeleton

/-! ## Equal S-expressions -/

namespace Node

mutual

/-- An S-expression tells nothing but what is read back from it. -/
theorem sexpText_eq_of_skeleton_eq (first second : Node)
    (same : first.skeleton = second.skeleton) : first.sexpText = second.sexpText := by
  match first, second with
  | .mk content range tokens children, .mk other place owned inner =>
    rw [skeleton, skeleton, Skeleton.mk.injEq] at same
    rcases same with ⟨kinds, missing, below⟩
    have heads : sexpHead (.mk content range tokens children) =
        sexpHead (.mk other place owned inner) := by
      rw [sexpHead, sexpHead, missing]
      exact congrArg (fun kind : NodeKind => '(' :: (_ ++ kind.label.toList)) kinds
    rw [sexpText, sexpText, heads, kinds, sexpChildren_eq_of_forestSkeletons_eq _ _ _ below]

/-- What children are written as depends on their skeletons only. -/
theorem sexpChildren_eq_of_forestSkeletons_eq (bare : Bool) (first second : List (Field × Node))
    (same : forestSkeletons first = forestSkeletons second) :
    sexpChildren bare first = sexpChildren bare second := by
  match first, second with
  | [], [] => rfl
  | [], (_, _) :: _ => cases same
  | (_, _) :: _, [] => cases same
  | (field, child) :: rest, (other, tree) :: more =>
    rw [forestSkeletons, forestSkeletons, List.cons.injEq, Prod.mk.injEq] at same
    rcases same with ⟨⟨rfl, trees⟩, later⟩
    rw [sexpChildren, sexpChildren, sexpText_eq_of_skeleton_eq child tree trees,
      sexpChildren_eq_of_forestSkeletons_eq bare rest more later]

end

variable {node other : Node}

/-- Two nodes are written the same exactly if they have the same skeleton. -/
theorem sexp_eq_iff_skeleton_eq (filed : Every IsFiled [node])
    (otherFiled : Every IsFiled [other]) :
    node.sexp = other.sexp ↔ node.skeleton = other.skeleton := by
  constructor
  · intro same
    have read := Skeleton.ofText?_sexp filed
    rw [same, Skeleton.ofText?_sexp otherFiled] at read
    exact (Option.some.inj read).symm
  · intro same
    exact congrArg String.ofList (sexpText_eq_of_skeleton_eq node other same)

/-- Children tell the same if they are as many and agree, one by one, in their fields and their
S-expressions. -/
theorem forestSkeletons_eq_iff {children others : List (Field × Node)}
    (filed : Every IsFiled (children.map (·.2))) (othersFiled : Every IsFiled (others.map (·.2))) :
    forestSkeletons children = forestSkeletons others ↔
      List.Forall₂ (fun entry other => entry.1 = other.1 ∧ entry.2.sexp = other.2.sexp)
        children others := by
  induction children generalizing others with
  | nil => cases others <;> simp [forestSkeletons]
  | cons entry rest ih =>
    cases others with
    | nil => simp [forestSkeletons]
    | cons other more =>
      rw [List.map_cons, every_cons] at filed othersFiled
      rw [forestSkeletons, forestSkeletons, List.cons.injEq, Prod.mk.injEq, List.forall₂_cons,
        ih filed.2 othersFiled.2, sexp_eq_iff_skeleton_eq filed.1 othersFiled.1]

/-- The skeleton of a node is made of the skeletons of its children. -/
theorem skeleton_eq (node : Node) :
    node.skeleton = .mk node.kind node.isMissing (forestSkeletons node.fields) := by
  cases node
  rfl

/-- Two nodes have the same S-expression if and only if they agree in their kinds, in whether they
are missing, and in their children. -/
theorem sexp_eq_iff_of_isFiled (filed : Every IsFiled [node]) (otherFiled : Every IsFiled [other]) :
    node.sexp = other.sexp ↔
      node.kind = other.kind ∧ node.isMissing = other.isMissing ∧
        List.Forall₂ (fun entry other => entry.1 = other.1 ∧ entry.2.sexp = other.2.sexp)
          node.fields other.fields := by
  have below := (every_singleton.mp filed).2
  have otherBelow := (every_singleton.mp otherFiled).2
  rw [sexp_eq_iff_skeleton_eq filed otherFiled, skeleton_eq, skeleton_eq, Skeleton.mk.injEq,
    forestSkeletons_eq_iff below otherBelow]

end Node

/-- S-expressions of nodes of any two sources are the same if and only if the nodes agree in their
kinds, in whether they are missing, and in their children, one by one in the fields and, again, the
S-expressions.  The kinds, the fields and the missing nodes of the tree are read back from the
text. -/
theorem sexp_eq_iff {source another : String} {options others : ParseOptions} {node other : Node}
    (member : node ∈ (parse source options).root.descendants)
    (otherMember : other ∈ (parse another others).root.descendants) :
    (node.sexp = other.sexp ↔
      node.kind = other.kind ∧ node.isMissing = other.isMissing ∧
        List.Forall₂ (fun entry other => entry.1 = other.1 ∧ entry.2.sexp = other.2.sexp)
          node.fields other.fields) ∧
      Skeleton.ofText? node.sexp = some node.skeleton := by
  have filed := Node.every_of_mem_descendants (Program.every_isFiled _) member
  have otherFiled := Node.every_of_mem_descendants (Program.every_isFiled _) otherMember
  exact ⟨Node.sexp_eq_iff_of_isFiled filed otherFiled, Skeleton.ofText?_sexp filed⟩

/-- Two variables of other types and names have the same S-expression, so their declarations agree
one by one, and the S-expression tells what they share. -/
theorem sexp_eq_iff_variables :
    let first := (parse "var int first;").root
    let second := (parse "var string second").root
    List.Forall₂ (fun entry other => entry.1 = other.1 ∧ entry.2.sexp = other.2.sexp)
        first.fields second.fields ∧
      Skeleton.ofText? "(program (variable_declaration type: (type) name: (identifier)))" =
        some first.skeleton := by
  intro first second
  have printed :
      first.sexp = "(program (variable_declaration type: (type) name: (identifier)))" := by
    decide +kernel
  have alsoPrinted :
      second.sexp = "(program (variable_declaration type: (type) name: (identifier)))" := by
    decide +kernel
  have read := sexp_eq_iff (Node.mem_descendants first) (Node.mem_descendants second)
  exact ⟨(read.1.mp (printed.trans alsoPrinted.symm)).2.2, printed ▸ read.2⟩

end ScriptTree
