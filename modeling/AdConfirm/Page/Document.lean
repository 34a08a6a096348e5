/-!
The structured data of a page, as it is handed over with a committed page. Nothing in it is trusted.

A page lists entities; an entity has a type and properties; a property holds a list of values of one kind, and entities
may again be values.
-/

namespace AdConfirm

mutual

/-- a typed thing with properties -/
inductive Entity where
  | mk (type : String) (properties : List Property)

/-- a named list of values -/
inductive Property where
  | mk (name : String) (values : Values)

/-- values of a property, all of one kind -/
inductive Values where
  | bools (items : List Bool)
  | longs (items : List Int64)
  | strings (items : List String)
  | entities (items : List Entity)

end

/-- the document of a page -/
structure WebPage where
  url : Option String
  title : Option String
  entities : List Entity

namespace Entity

def type : Entity → String
  | .mk t _ => t

def properties : Entity → List Property
  | .mk _ ps => ps

end Entity

namespace Property

def name : Property → String
  | .mk n _ => n

def values : Property → Values
  | .mk _ vs => vs

end Property

namespace Values

def kind : Values → String
  | .bools _ => "bools"
  | .longs _ => "longs"
  | .strings _ => "strings"
  | .entities _ => "entities"

/-- the text, where there is exactly one -/
def singleString? : Values → Option String
  | .strings [s] => some s
  | _ => none

/-- the integer, where there is exactly one -/
def singleLong? : Values → Option Int64
  | .longs [n] => some n
  | _ => none

end Values

mutual

def Entity.same : Entity → Entity → Bool
  | .mk t ps, .mk u qs => t == u && sameProperties ps qs

def sameProperties : List Property → List Property → Bool
  | [], [] => true
  | p :: ps, q :: qs => p.same q && sameProperties ps qs
  | _, _ => false

def Property.same : Property → Property → Bool
  | .mk n vs, .mk m ws => n == m && vs.same ws

/-- whether two lists of values are the same -/
def Values.same : Values → Values → Bool
  | .bools a, .bools b => a == b
  | .longs a, .longs b => a == b
  | .strings a, .strings b => a == b
  | .entities a, .entities b => sameEntities a b
  | _, _ => false

def sameEntities : List Entity → List Entity → Bool
  | [], [] => true
  | e :: es, f :: fs => e.same f && sameEntities es fs
  | _, _ => false

end

def WebPage.same (p q : WebPage) : Bool := p.url == q.url && p.title == q.title && sameEntities p.entities q.entities

end AdConfirm
