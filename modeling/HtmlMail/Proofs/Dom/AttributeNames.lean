import HtmlMail.Proofs.Dom.Frame
import Mathlib.Data.List.Nodup

/-!
# Names of attributes

An attribute is looked up by its name in any case, and only the first entry that fits is looked at. So what
is said about an attribute is said about all of its entries only if there is one at most. This is how it is as soon as
attributes are inserted one after the other, whatever is written.

* `Attributes.lowerNames` : the names that entries go by;
* `Attributes.names_insert`, `Attributes.lowerNames_insert` : what inserting an attribute does to them;
* `Attributes.nodup_lowerNames_ofList` : no two entries of inserted attributes go by the same name.
-/

namespace HtmlMail.Dom

namespace Attributes

variable {as : Attributes} {name value : String}

/-- The names of the attributes in lower case, in the order of the entries. -/
def lowerNames (as : Attributes) : List String := (as.entries.map (·.name)).map Text.lower

/-- A name fits an entry if both are the same in lower case. -/
theorem isNamed_iff {a : Attribute} : a.isNamed name ↔ Text.lower a.name = Text.lower name := by
  rw [Attribute.isNamed, Text.eqIgnoringCase, Chars.eqIgnoringCase, beq_iff_eq, Text.lower, Text.lower, String.ofList_inj]

theorem contains_iff : as.contains name ↔ Text.lower name ∈ as.lowerNames := by
  rw [contains, List.any_eq_true, lowerNames, List.map_map, List.mem_map]
  exact exists_congr fun a => and_congr_right fun _ => isNamed_iff

/-- **An inserted attribute** comes to the end, unless its name is there. -/
theorem names_insert (as : Attributes) (name value : String) : (as.insert name value).entries.map (·.name) =
    as.entries.map (·.name) ++ if as.contains name then [] else [name] := by
  unfold insert
  split
  · rw [List.append_nil]
    exact map_name_replaceValue name value as.entries
  · exact List.map_append

/-- It brings in its name if that is a new one. -/
theorem lowerNames_insert (as : Attributes) (name value : String) : (as.insert name value).lowerNames =
    if as.contains name then as.lowerNames else as.lowerNames ++ [Text.lower name] := by
  rw [lowerNames, names_insert, List.map_append]
  split
  · exact List.append_nil _
  · rfl

theorem nodup_lowerNames_insert (h : as.lowerNames.Nodup) (name value : String) :
    (as.insert name value).lowerNames.Nodup := by
  rw [lowerNames_insert]
  split
  · exact h
  · next hnew =>
    rw [contains_iff] at hnew
    exact List.nodup_append.2 ⟨h, List.nodup_singleton _, fun a ha b hb hab => hnew (List.mem_singleton.1 hb ▸ hab ▸ ha)⟩

/-- **No two attributes go by the same name**, whatever entries they are made of. -/
theorem nodup_lowerNames_ofList (entries : List Attribute) : (ofList entries).lowerNames.Nodup := by
  -- By induction on the entries, for all attributes that they are inserted into.
  have hfold (as : Attributes) (h : as.lowerNames.Nodup) :
      (entries.foldl (fun as a => as.insert a.name a.value) as).lowerNames.Nodup := by
    induction entries generalizing as with
    | nil => exact h
    | cons a rest ih => exact ih _ (nodup_lowerNames_insert h a.name a.value)
  exact hfold empty List.nodup_nil

end Attributes

end HtmlMail.Dom
