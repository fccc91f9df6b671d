namespace ServiceDiagram.Table

/-- Sets the value of a key: in its place if it has one, at the end otherwise. -/
def put {κ α : Type} [DecidableEq κ] (key : κ) (value : α) : List (κ × α) → List (κ × α)
  | [] => [(key, value)]
  | (k, v) :: rest => if k = key then (k, value) :: rest else (k, v) :: put key value rest

/-- A table of entries, of which the later ones replace the earlier ones. -/
def ofEntries {κ α : Type} [DecidableEq κ] (entries : List (κ × α)) : List (κ × α) :=
  entries.foldl (fun t (k, v) => put k v t) []

end ServiceDiagram.Table
