import Std.Data.TreeMap

/-! The memory of pattern expansions. What a pattern once expanded to is kept for good. -/

namespace AliasSync

structure ExpansionCache where
  entries : Std.TreeMap String (List String)

namespace ExpansionCache

def empty : ExpansionCache := ⟨∅⟩

def get? (cache : ExpansionCache) (pattern : String) : Option (List String) :=
  cache.entries[pattern]?

def insert (cache : ExpansionCache) (pattern : String) (names : List String) : ExpansionCache :=
  ⟨cache.entries.insert pattern names⟩

def size (cache : ExpansionCache) : Nat := cache.entries.size

def isEmpty (cache : ExpansionCache) : Bool := cache.entries.isEmpty

@[simp] theorem get?_empty (pattern : String) : empty.get? pattern = none := by
  simp [empty, get?]

theorem get?_insert (cache : ExpansionCache) (pattern other : String) (names : List String) :
    (cache.insert pattern names).get? other = if pattern = other then some names
      else cache.get? other := by
  simp [insert, get?, Std.TreeMap.getElem?_insert]

end ExpansionCache

end AliasSync
