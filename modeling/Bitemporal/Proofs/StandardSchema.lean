import Bitemporal.Proofs.SchemaLaws
import Bitemporal.Proofs.StandardMapper

/-!
# The schema of one standard mapper

It makes a document of every interval that runs forwards, and the document holds the interval as
the mapper stores it.
-/

namespace Bitemporal.Schema

open BitemporalMapper (Forward StoredAs recordOf)

theorem exists_standard (field : String) (h : Text.allBlank field = false) :
    ∃ m schema, BitemporalMapper.standard field = .ok m ∧
      ofMappers [.bitemporal m] = .ok schema ∧ schema.bitemporalMapper field = .ok m ∧
      ∀ ends, Forward ends → ∃ doc,
        schema.documentFields (recordOf ends.millis) = .ok doc ∧ StoredAs field ends doc := by
  obtain ⟨m, hm⟩ := BitemporalMapper.exists_standard h
  have hfield := BitemporalMapper.standard_field hm
  refine ⟨m, ⟨(∅ : OrderedMap Mapper).insert m.field (.bitemporal m)⟩, hm, rfl, ?_, ?_⟩
  · rw [bitemporalMapper_ok, get?, OrderedMap.get?_insert, if_pos hfield.symm]
  · intro ends hforward
    have hpart : m.documentFields (recordOf ends.millis) = .ok (m.stored ends).fields :=
      BitemporalMapper.documentFields_ok.mpr
        (.inr ⟨ends, BitemporalMapper.readEnds_recordOf hm ends, hforward, rfl⟩)
    refine ⟨(∅ : Fields).merge (m.stored ends).fields, collect_cons_ok.mpr ⟨_, hpart, rfl⟩,
      (BitemporalMapper.storedAs_standard hm ends).congr fun name _ => ?_⟩
    rw [OrderedMap.get?_merge, OrderedMap.get?_emptyCollection, Option.or_none]

end Bitemporal.Schema
