/-!
Unique names: a taken name gets the first free number from 2 on. Among as many numbers as there
are used names one is free, because the name itself takes one of their places.
-/

namespace SchemaNaming.Identifier

def numbered (base : String) (k : Nat) : String := base ++ toString k

def uniqueName (base : String) (used : List String) : String :=
  if used.contains base then
    let free := (List.range used.length).find? (fun i => !used.contains (numbered base (i + 2)))
    numbered base (free.getD used.length + 2)
  else base

end SchemaNaming.Identifier
