import PackageRegistry.Package
import PackageRegistry.Proofs.Json.Records

/-! # Packages as documents

A package whose counters fit 64 bits is read back from its document, and every package that is read
is one of these.
-/

namespace PackageRegistry.Package

open Json
open Json.Value (Plain PlainFields depth depthFields)

variable {ν : Type} [Document ν] {g : Value → ν}

/-- The counters have at most 64 bits. -/
structure Statistics.Counted (s : Statistics) : Prop where
  downloads : s.downloads < 2 ^ 64
  stars : s.stars < 2 ^ 64

theorem Statistics.counted_default : Counted {} := ⟨by decide, by decide⟩

def Counted (p : Package) : Prop := p.stats.Counted

/-! ## Reading what is written -/

namespace Statistics

variable {s : Statistics}

theorem ofJson_toJson (hg : Faithful g) (h : s.Counted) : ofJson (g s.toJson) = .ok s := by
  obtain ⟨fields, hrecord, hfind⟩ :=
    hg.record fieldNames s.toJson (by decide) ⟨_, rfl, .refl _⟩
  have hdownloads := hg.nat (le_largest_iff.mpr h.downloads)
  have hstars := hg.nat (le_largest_iff.mpr h.stars)
  rw [ofJson, hrecord]
  simp [Decode.optional, Decode.withDefault, hfind, toJson, Value.get?, Keyed.find?, hdownloads,
    hstars, hg.optional]

theorem plain_toJson (h : s.Counted) : s.toJson.Plain := by
  have hdownloads := le_largest_iff.mpr h.downloads
  have hstars := le_largest_iff.mpr h.stars
  simp [toJson, Plain, PlainFields, Value.nat, hdownloads, hstars]

@[simp] theorem depth_toJson (s : Statistics) : s.toJson.depth = 1 := by
  simp [toJson, depth, depthFields, Value.nat]

end Statistics

namespace Release

theorem ofJson_toJson (hg : Faithful g) (r : Release) : ofJson (g r.toJson) = .ok r := by
  obtain ⟨fields, hrecord, hfind⟩ :=
    hg.record fieldNames r.toJson (by decide) ⟨_, rfl, .refl _⟩
  rw [ofJson, hrecord]
  simp [Decode.optional, Decode.withDefault, hfind, toJson, Value.get?, Keyed.find?, hg.text,
    hg.optional]

@[simp] theorem plain_toJson (r : Release) : r.toJson.Plain := by
  simp [toJson, Plain, PlainFields]

@[simp] theorem depth_toJson (r : Release) : r.toJson.depth = 1 := by
  simp [toJson, depth, depthFields]

end Release

variable {p : Package}

theorem ofJson_toJson (hg : Faithful g) (h : p.Counted) : ofJson (g p.toJson) = .ok p := by
  obtain ⟨fields, hrecord, hfind⟩ :=
    hg.record fieldNames p.toJson (by decide) ⟨_, rfl, .refl _⟩
  have hversions : Decode.list Release.ofJson (g (.array (p.versions.map Release.toJson))) =
      .ok p.versions :=
    hg.list fun r _ => r.ofJson_toJson hg
  have hstats := Statistics.ofJson_toJson hg h
  rw [ofJson, hrecord]
  simp [Decode.required, Decode.optional, Decode.withDefault, hfind, toJson, Value.get?,
    Keyed.find?, hg.text, hg.optional, hg.strings, hversions, hstats]

theorem plain_toJson (h : p.Counted) : p.toJson.Plain := by
  have hversions : Value.PlainItems (p.versions.map Release.toJson) := by
    refine Value.plainItems_iff.mpr ?_
    simp
  have hstats := Statistics.plain_toJson h
  simp [toJson, Plain, PlainFields, hversions, hstats]

theorem depth_toJson_le (p : Package) : p.toJson.depth ≤ 3 := by
  have hversions : Value.depthItems (p.versions.map Release.toJson) ≤ 1 := by
    refine Value.depthItems_le_iff.mpr ?_
    simp
  simp [toJson, depth, depthFields]
  omega

/-! ## Packages from values -/

theorem Statistics.counted_of_ofJson {x : Value} {s : Statistics} (hx : x.Bounded)
    (h : Statistics.ofJson x = .ok s) : s.Counted := by
  obtain ⟨fields, hrecord, h⟩ := Results.bind_eq_ok_iff.mp h
  obtain ⟨downloads, hdownloads, h⟩ := Results.bind_eq_ok_iff.mp h
  obtain ⟨stars, hstars, h⟩ := Results.bind_eq_ok_iff.mp h
  obtain ⟨lastUpdated, -, h⟩ := Results.bind_eq_ok_iff.mp h
  cases h
  have hfields := Decode.bounded_record hx hrecord
  exact ⟨le_largest_iff.mp (Decode.withDefault_natural_le hfields hdownloads),
    le_largest_iff.mp (Decode.withDefault_natural_le hfields hstars)⟩

theorem counted_of_ofJson {x : Value} (hx : x.Bounded) (h : ofJson x = .ok p) : p.Counted := by
  simp only [ofJson, Results.bind_eq_ok_iff, Results.pure_eq_ok, Except.ok.injEq] at h
  -- Of the fourteen fields only the last one holds counters.
  obtain ⟨fields, hrecord, _, -, _, -, _, -, _, -, _, -, _, -, _, -, _, -, _, -, _, -, _, -, _, -,
    _, -, stats, hstats, rfl⟩ := h
  unfold Decode.withDefault at hstats
  split at hstats
  · rename_i v hfind
    have hv := Decode.bounded_of_find? (Decode.bounded_record hx hrecord) hfind
    exact Statistics.counted_of_ofJson hv hstats
  · cases hstats
    exact Statistics.counted_default

end PackageRegistry.Package
