import SchemaNaming.Proofs.Generator.Outcomes
import SchemaNaming.Proofs.Generator.TypeNames

/-!
What stacked decorators log. A layer logs what it finds in the reply of the layer inside it, and a
fault of naming goes through all layers outside. So every layer logs a refused name, except the layer
that finds nothing left of a text: that one is silent, as those inside it are. So is a layer that
cannot write what it would log.
-/

namespace SchemaNaming
open Text Identifier

namespace Decorator

variable {slot : Slot} {d : Decorator} {layers : List Decorator} {request : Request} {reply : Reply}

end Decorator

namespace Generator
open Decorator

variable {slot : Slot} {d : Decorator} {layers : List Decorator} {request : Request}

section LayersLog

variable {inner : Generator} {innermost : Decorator} {outer : List Decorator}
  {label : SlotLabel} {subject : Value} {reason : String} {causes : List Fault}

end LayersLog

end Generator

namespace Host

end Host

namespace Plugin
open Generator Decorator

variable {slot : Slot} {innermost : Decorator} {outer : List Decorator} {request : Request}
  {h : Host} {id : InstanceId} {g : Generator}

end Plugin

end SchemaNaming
