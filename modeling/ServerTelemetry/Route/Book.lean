import ServerTelemetry.Route.Basic

/-!
# Handles on route holders

A holder is shared: every stage that a request passes has a handle on it, and cloning a handle gives
another one on the same holder. A book keeps the holders and, for each handle, the holder it is on.
An offer through one handle is seen through all handles on the same holder, and through no other.
-/

namespace ServerTelemetry

/-- Holders and the handles on them. -/
structure RouteBook where
  /-- The holders, in order of creation. -/
  holders : List RouteHolder
  /-- For each handle, in order of creation, the position of its holder. -/
  handles : List Nat
  deriving DecidableEq, Repr

namespace RouteBook

/-- No holders and no handles. -/
def empty : RouteBook :=
  ⟨[], []⟩

/-- The holder behind a handle. -/
def holder? (b : RouteBook) (handle : Nat) : Option RouteHolder :=
  b.handles[handle]?.bind (b.holders[·]?)

/-- Adds a holder and a handle on it. -/
def add (b : RouteBook) (h : RouteHolder) : RouteBook :=
  ⟨b.holders ++ [h], b.handles ++ [b.holders.length]⟩

/-- Adds a second handle on the holder behind `handle`. -/
def clone (b : RouteBook) (handle : Nat) : RouteBook :=
  match b.handles[handle]? with
  | some i => { b with handles := b.handles ++ [i] }
  | none => b

/-- Offers through a handle what a stage computes. Answers whether the route behind it changed. -/
def offerWith (b : RouteBook) (handle : Nat) (source : RouteSource) (route : Option Text) :
    RouteBook × Bool :=
  match b.handles[handle]? with
  | none => (b, false)
  | some i =>
    match b.holders[i]? with
    | none => (b, false)
    | some h =>
      let (h', changed) := h.offerWith source route
      ({ b with holders := b.holders.set i h' }, changed)

end RouteBook

/-- What a program does with route handles. -/
inductive RouteOp where
  | new (method : Text)
  /-- A new holder that knows no method. -/
  | blank
  /-- Another handle on the holder of this handle. -/
  | clone (handle : Nat)
  /-- An offer through a handle; the route is what the stage computes. -/
  | offer (handle : Nat) (source : RouteSource) (route : Option Text)
  deriving DecidableEq, Repr

namespace RouteBook

/-- The book after one operation. -/
def step (b : RouteBook) : RouteOp → RouteBook
  | .new method => b.add (.new method)
  | .blank => b.add .empty
  | .clone handle => b.clone handle
  | .offer handle source route => (b.offerWith handle source route).1

/-- The book after a program, starting without holders. -/
def run (program : List RouteOp) : RouteBook :=
  program.foldl step empty

end RouteBook

end ServerTelemetry
