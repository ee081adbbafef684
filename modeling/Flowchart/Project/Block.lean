import Flowchart.Project.Statement
import Flowchart.Uuid

set_option autoImplicit false

/-! # Blocks

The nodes of a flow graph, with their outgoing connections sorted by the side they leave from. -/

namespace Flowchart

/-- A connection that leaves a block. -/
structure Connection where
  target : Uuid
  targetSide : Side
deriving DecidableEq

/-- The outgoing connections of a block. A side that is not mentioned differs from one without
    connections only in how a block is described, not in what it does. -/
structure Connections where
  top : Option (List Connection) := none
  bottom : Option (List Connection) := none
  left : Option (List Connection) := none
  right : Option (List Connection) := none
deriving DecidableEq

namespace Connections

/-- The connections of a side, if it is mentioned. -/
def get? (c : Connections) : Side → Option (List Connection)
  | .top => c.top
  | .bottom => c.bottom
  | .left => c.left
  | .right => c.right

/-- Replaces the connections of a side. -/
def set (c : Connections) (side : Side) (l : List Connection) : Connections :=
  match side with
  | .top => { c with top := some l }
  | .bottom => { c with bottom := some l }
  | .left => { c with left := some l }
  | .right => { c with right := some l }

/-- The connections of a side. -/
def on (c : Connections) (side : Side) : List Connection := (c.get? side).getD []

/-- Adds a connection to those of a side. -/
def add (c : Connections) (side : Side) (connection : Connection) : Connections :=
  c.set side (c.on side ++ [connection])

/-- All connections, side by side. -/
def all (c : Connections) : List Connection := Side.all.flatMap c.on

/-- The sides that are mentioned, with their connections. -/
def mentioned (c : Connections) : List (Side × List Connection) :=
  Side.all.filterMap fun side => (c.get? side).map (side, ·)

end Connections

/-- What a block does. -/
structure BlockContent where
  statement : Option Statement
  /-- The full name of the variable that an assignment or an input writes to. -/
  target : Option String

/-- A node of a flow graph. -/
structure Block where
  id : Uuid
  kind : BlockKind
  content : Option BlockContent
  connections : Connections

namespace Block

/-- The statement of a block. -/
def statement? (b : Block) : Option Statement := b.content.bind (·.statement)

/-- The full name of the variable a block writes to. -/
def target? (b : Block) : Option String := b.content.bind (·.target)

/-- All outgoing connections. -/
def successors (b : Block) : List Connection := b.connections.all

/-- The outgoing connections of one side. -/
def branch (b : Block) (side : Side) : List Connection := b.connections.on side

end Block

end Flowchart
