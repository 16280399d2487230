import TypeLaws.Yaml.Event

/-!
Documents as graphs. A node is known by its number; an alias leads to the number of the node with
its anchor, so that a node may have several places and may even lie inside of itself.
-/

namespace TypeLaws.Yaml

inductive Node where
  | scalar (tag : Tag) (scalar : Scalar)
  | sequence (tag : Tag) (items : List Nat)
  | mapping (tag : Tag) (entries : List (Nat × Nat))
  deriving Inhabited

def Node.tag : Node → Tag
  | .scalar tag _ => tag
  | .sequence tag _ => tag
  | .mapping tag _ => tag

structure Graph where
  nodes : Array Node
  root : Nat

namespace Graph

structure Builder where
  nodes : Array Node
  anchors : List (String × Nat)
  /-- The nodes that have not ended, the innermost first, with what they hold, the last first. -/
  unfinished : List (Nat × List Nat)
  root : Option Nat
  ended : Bool

namespace Builder

def initial : Builder := ⟨#[], [], [], none, false⟩

def attach (id : Nat) (builder : Builder) : Builder :=
  match builder.unfinished with
  | [] => { builder with root := some id }
  | (parent, held) :: others => { builder with unfinished := (parent, id :: held) :: others }

def add (anchor : Option String) (node : Node) (builder : Builder) :
    Except Fault (Nat × Builder) :=
  let id := builder.nodes.size
  let builder := { builder with nodes := builder.nodes.push node }
  match anchor with
  | none => .ok (id, builder)
  | some name =>
      if (builder.anchors.lookup name).isSome then .error .reference
      else .ok (id, { builder with anchors := (name, id) :: builder.anchors })

def enter (anchor : Option String) (node : Node) (builder : Builder) : Except Fault Builder := do
  let (id, builder) ← builder.add anchor node
  return { builder with unfinished := (id, []) :: builder.unfinished }

def pairUp : List Nat → List (Nat × Nat)
  | key :: value :: rest => (key, value) :: pairUp rest
  | _ => []

def complete (node : Node) (held : List Nat) : Node :=
  match node with
  | .scalar tag scalar => .scalar tag scalar
  | .sequence tag _ => .sequence tag held
  | .mapping tag _ => .mapping tag (pairUp held)

def leave (builder : Builder) : Builder :=
  match builder.unfinished with
  | [] => builder
  | (id, held) :: others =>
      { builder with
        nodes := builder.nodes.modify id (complete · held.reverse)
        unfinished := others }.attach id

def step (builder : Builder) : Event → Except Fault Builder
  | .documentStart => if builder.ended then .error .reference else .ok builder
  | .documentEnd => .ok { builder with anchors := [], ended := true }
  | .streamEnd => .ok builder
  | .alias name =>
      match builder.anchors.lookup name with
      | some id => .ok (builder.attach id)
      | none => .error .reference
  | .scalar anchor tag scalar => do
      let (id, builder) ← builder.add anchor (.scalar tag scalar)
      return builder.attach id
  | .sequenceStart anchor tag => builder.enter anchor (.sequence tag [])
  | .mappingStart anchor tag => builder.enter anchor (.mapping tag [])
  | .sequenceEnd => .ok builder.leave
  | .mappingEnd => .ok builder.leave

end Builder

def ofEvents (events : Row Event) : Except Fault (Option Graph) := do
  let builder ← events.items.foldlM Builder.step .initial
  match events.fault with
  | some fault => throw fault
  | none => return builder.root.map fun root => ⟨builder.nodes, root⟩

end Graph

end TypeLaws.Yaml
