import ComponentDirective.Component

/-!
# Discovery of components

Every declaration that is not a marker type is asked for directives: one on itself gives a direct request, and each of
its markers whose type carries the directive gives an indirect one. Indirection goes one level deep, and a marker that
is repeated gives its request each time.
-/

namespace ComponentDirective

namespace Host

/-- The request that a marker gives to the declaration that bears it: its type is declared by a marker type, and that
carries the directive. -/
def requestThrough (h : Host) (directive : TypeName) (component : DeclId) (m : Marker) :
    Except ModelError (Option Request) :=
  match h.declarationOf m.type with
  | none => .ok none
  | some carrier =>
    match h.declaration carrier with
    | .error e => .error e
    | .ok d => .ok (if d.isMarkerType && d.bears directive then some (.indirect carrier component) else none)

/-- The requests that markers give, in the order of the markers. -/
def requestsThrough (h : Host) (directive : TypeName) (component : DeclId) :
    List Marker → Except ModelError (List Request)
  | [] => .ok []
  | m :: rest =>
    match h.requestThrough directive component m with
    | .error e => .error e
    | .ok first =>
      match h.requestsThrough directive component rest with
      | .error e => .error e
      | .ok others => .ok (first.toList ++ others)

/-- The requests for one declaration: the direct one, then the indirect ones. -/
def requestsFor (h : Host) (directive : TypeName) (id : DeclId) : Except ModelError (List Request) :=
  match h.declaration id with
  | .error e => .error e
  | .ok d =>
    if d.isMarkerType then .ok []
    else
      match h.requestsThrough directive id d.markers with
      | .error e => .error e
      | .ok indirect => .ok ((if d.bears directive then [.direct id] else []) ++ indirect)

/-- The requests for declarations one after another; the first failure is the answer. -/
def requestsForAll (h : Host) (directive : TypeName) : List DeclId → Except ModelError (List Request)
  | [] => .ok []
  | id :: rest =>
    match h.requestsFor directive id with
    | .error e => .error e
    | .ok first =>
      match h.requestsForAll directive rest with
      | .error e => .error e
      | .ok others => .ok (first ++ others)

/-- Every component to extract, in the order of declaration. -/
def discover (h : Host) (o : Options) : Except ModelError (List Request) :=
  match o.directive with
  | .error e => .error e
  | .ok directive => h.requestsForAll directive h.declarationIds

end Host

end ComponentDirective
