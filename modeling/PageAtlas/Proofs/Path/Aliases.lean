import PageAtlas.Proofs.Path.RoundTrip

/-!
# Paths of aliases

Aliases joined by separators are read back as plain hops, unless one of them
reads as something else where it stands.
-/

namespace PageAtlas.Path

open Text

/-- Blanks next to a separator would be taken for its padding, and an alias of
the qualified form for a pick. -/
structure Unmistakable (keys : List String) : Prop where
  begins : ∀ key ∈ keys.tail, beginsBlank key.toList = false
  ends : ∀ key ∈ keys.dropLast, endsBlank key.toList = false
  unqualified : ∀ key ∈ keys, ∀ body, key.toList = '#' :: body → ¬ Qualifier.HasForm body

variable {keys : List String}

theorem render_map_plain (keys : List String) : render (keys.map Hop.plain) = join keys := by
  rw [render, List.map_map]
  exact congrArg join (List.map_id keys)

theorem Canonical.unmistakable (h : Canonical (keys.map Hop.plain)) : Unmistakable keys := by
  refine ⟨?_, ?_, ?_⟩
  · intro key hkey
    have hmem : Hop.plain key ∈ (keys.map Hop.plain).tail := by
      rw [← List.map_tail]
      exact List.mem_map_of_mem hkey
    simpa only [Hop.render] using h.begins _ hmem
  · intro key hkey
    have hmem : Hop.plain key ∈ (keys.map Hop.plain).dropLast := by
      rw [← List.map_dropLast]
      exact List.mem_map_of_mem hkey
    simpa only [Hop.render] using h.ends _ hmem
  · intro key hkey
    exact h.readable _ (List.mem_map_of_mem hkey)

theorem Unmistakable.canonical (h : Unmistakable keys) (hne : keys ≠ [])
    (hsep : ∀ key ∈ keys, separator ∉ key.toList) : Canonical (keys.map Hop.plain) := by
  refine ⟨?_, ?_, ?_, ?_, ?_⟩
  · rwa [Ne, List.map_eq_nil_iff]
  · intro hop hhop s hs
    obtain ⟨key, hkey, rfl⟩ := List.mem_map.1 hhop
    rw [List.mem_singleton.1 hs]
    exact hsep key hkey
  · intro hop hhop
    rw [← List.map_tail] at hhop
    obtain ⟨key, hkey, rfl⟩ := List.mem_map.1 hhop
    simpa only [Hop.render] using h.begins key hkey
  · intro hop hhop
    rw [← List.map_dropLast] at hhop
    obtain ⟨key, hkey, rfl⟩ := List.mem_map.1 hhop
    simpa only [Hop.render] using h.ends key hkey
  · intro hop hhop
    obtain ⟨key, hkey, rfl⟩ := List.mem_map.1 hhop
    exact h.unqualified key hkey

/-- Whatever the path, plain hops are read from it only if they are unmistakable. -/
theorem unmistakable_of_parse {path : String} (h : parse path = .ok (keys.map Hop.plain)) :
    Unmistakable keys :=
  (canonical_of_parse h).unmistakable

theorem Unmistakable.parse_join (h : Unmistakable keys) (hne : keys ≠ [])
    (hsep : ∀ key ∈ keys, separator ∉ key.toList) :
    parse (join keys) = .ok (keys.map Hop.plain) := by
  rw [← render_map_plain]
  exact (h.canonical hne hsep).parse_render

end PageAtlas.Path
