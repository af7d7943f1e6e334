import GoldenCapture.Proofs.Batch.YamlLeaves
import GoldenCapture.Proofs.Batch.YamlRoundTrip

/-!
# Encodings of batches

What a golden file and a delivery make of a batch: both encodings give it back, as long as their
text layers give back the tree that was written.
-/

namespace GoldenCapture

/-- The JSON text of a tree holds the tree, with null for what is no finite number. -/
def Json.TextHolds (t : Json) : Prop := parseBytes? t.compact.toUTF8.toList = some t.finiteOnly

/-- The YAML text of a tree holds the tree, with one NaN for all. -/
def Yaml.TextHolds (t : Json) : Prop := tree? (render t) = some t.oneNaN

/-- A golden file is read back as the batch that was written. -/
theorem Batch.ofYaml?_yaml {b : Batch} (h : b.Every Value.IsAboveSigned)
    (hdepth : b.toJson.depth ≤ Yaml.depthLimit) (htext : Yaml.TextHolds b.toJson) :
    ofYaml? b.yaml = some b.oneNaN := by
  simp only [Yaml.TextHolds, Yaml.tree?, Option.bind_eq_bind, Option.bind_eq_some_iff] at htext
  obtain ⟨d, hd, root, hroot, htree⟩ := htext
  simp [ofYaml?, yaml, hd, hroot, b.ofNode_of_tree? d h hdepth root htree]

/-- The canonical text of a batch is decoded as the batch. -/
theorem Protocol.decode_text {p : Protocol} {b : Batch} (h : b.Every Value.IsAboveSigned)
    (hfinite : b.Every Value.IsFiniteNumber) (hdepth : b.toJson.depth ≤ Json.depthLimit)
    (htext : Json.TextHolds b.toJson) (hsignal : p.signal = b.signal) :
    p.decode b.text.toUTF8.toList = .ok b := by
  rw [Json.TextHolds, Json.finiteOnly_eq_self (Batch.bounded_toJson hfinite)] at htext
  rw [decode, Batch.text, htext, Option.bind_some, Batch.ofJson?_toJson h hdepth]
  exact if_pos hsignal.symm

/-- Whatever is decoded or read from a golden file holds an unsigned integer only above the signed
ones, and what is decoded holds finite doubles only. Every batch of that kind is read back from its
golden file as the same batch, and if its doubles are finite it is decoded from its canonical text
as itself. -/
theorem Batch.encoding_round_trip :
    (∀ (p : Protocol) (payload : List UInt8) (b : Batch), p.decode payload = .ok b →
      b.Every Value.IsAboveSigned ∧ b.Every Value.IsFiniteNumber) ∧
    (∀ (text : String) (b : Batch), ofYaml? text = some b → b.Every Value.IsAboveSigned) ∧
    ∀ b : Batch, b.Every Value.IsAboveSigned →
      (b.toJson.depth ≤ Yaml.depthLimit → Yaml.TextHolds b.toJson →
        ∃ b', ofYaml? b.yaml = some b' ∧ b'.same b = true) ∧
      (b.Every Value.IsFiniteNumber → b.toJson.depth ≤ Json.depthLimit →
        Json.TextHolds b.toJson → ∀ p : Protocol, p.signal = b.signal →
          p.decode b.text.toUTF8.toList = .ok b) := by
  refine ⟨fun p payload b h => ?_, fun text b h => isAboveSigned_of_ofYaml? h, fun b h => ⟨?_, ?_⟩⟩
  · exact ⟨p.every_of_decode .isAboveSigned h, p.every_of_decode .isFiniteNumber h⟩
  · exact fun hdepth htext => ⟨b.oneNaN, ofYaml?_yaml h hdepth htext, b.same_oneNaN⟩
  · exact fun hfinite hdepth htext p hsignal => p.decode_text h hfinite hdepth htext hsignal

def Batch.gauge (x : Double) : Batch where
  signal := .metrics
  resources := [{
    attributes := .ofFields [("id", .uint 18446744073709551615)]
    scopes := [{
      entries := [{ name := "load", kind := .gauge, points := [.ofValue (.double x)] }] }] }]

theorem Batch.every_gauge {pass : Value → Prop} {x : Double}
    (hid : pass (.uint 18446744073709551615)) (hx : pass (.double x)) : (gauge x).Every pass := by
  intro r hr
  cases List.mem_singleton.1 hr
  refine ⟨⟨hid, trivial⟩, fun s hs => ?_⟩
  cases List.mem_singleton.1 hs
  refine ⟨trivial, fun e he => ?_⟩
  cases List.mem_singleton.1 he
  refine ⟨trivial, fun p hp => ?_⟩
  cases List.mem_singleton.1 hp
  exact ⟨hx, trivial⟩

instance (t : Json) : Decidable (Json.TextHolds t) := inferInstanceAs (Decidable (_ = _))

instance (t : Json) : Decidable (Yaml.TextHolds t) := inferInstanceAs (Decidable (_ = _))

/-- A golden file keeps a gauge that is no number, and a delivery keeps one that is. -/
theorem Batch.encoding_round_trip_of_gauge :
    (∃ b, ofYaml? (gauge .nan).yaml = some b ∧ b.same (gauge .nan) = true ∧
      b.Every Value.IsAboveSigned) ∧
    Protocol.signalFx.decode (gauge (.ofNat 3)).text.toUTF8.toList = .ok (gauge (.ofNat 3)) ∧
    (gauge (.ofNat 3)).Every Value.IsFiniteNumber := by
  obtain ⟨hdecoded, hread, hround⟩ := Batch.encoding_round_trip
  have habove (x : Double) : (gauge x).Every Value.IsAboveSigned :=
    every_gauge (show 2 ^ 63 ≤ (18446744073709551615 : UInt64).toNat by decide) trivial
  obtain ⟨b, hb, hsame⟩ := (hround (gauge .nan) (habove _)).1 (by decide) (by decide +kernel)
  have hfinite : (gauge (.ofNat 3)).Every Value.IsFiniteNumber :=
    every_gauge trivial (show (Double.ofNat 3).isFinite = true by decide)
  have hdecode := (hround (gauge (.ofNat 3)) (habove _)).2 hfinite (by decide) (by decide +kernel)
    .signalFx rfl
  exact ⟨⟨b, hb, hsame, hread _ _ hb⟩, hdecode, (hdecoded _ _ _ hdecode).2⟩

end GoldenCapture
