import AliasSync.Alias
import AliasSync.Text.LowerCase
import Std.Data.TreeMap

/-! The difference of two alias tables: which aliases to delete and which to create so that the
current table gets the keys of the desired one. -/

namespace AliasSync

abbrev AliasTable := Std.TreeMap String HostAlias

namespace AliasTable

/-- The table of a list of aliases, each under its own key; of two with one key the later stays. -/
def ofList (aliases : List HostAlias) : AliasTable :=
  aliases.foldl (fun table entry => table.insert entry.key entry) ∅

/-- The aliases of the first table under keys that the second one lacks, by ascending key. -/
def missingFrom (table other : AliasTable) : List HostAlias :=
  (table.toList.filter fun (key, _) => !other.contains key).map Prod.snd

end AliasTable

/-- Orders aliases by their key without regard to case. The sort is stable, so equal keys keep the
order in which they come. -/
def byFoldedKey (aliases : List HostAlias) : List HostAlias :=
  aliases.mergeSort fun first second =>
    decide (Text.lowerCase first.key ≤ Text.lowerCase second.key)

/-- The changes that give `current` the keys of `desired`: deletions first, then creations. A key
on both sides is left alone, whatever else differs. -/
def diff (desired current : AliasTable) : List Operation :=
  (byFoldedKey (current.missingFrom desired)).map .delete ++
    (byFoldedKey (desired.missingFrom current)).map .create

end AliasSync
