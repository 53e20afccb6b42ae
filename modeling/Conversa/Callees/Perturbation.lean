import Conversa.Data.Arith
import Conversa.Numeric.Summation
import Conversa.Speech.Collection
import Conversa.Callees.AudioSegment

/-!
# Audio augmentations by name

A pipeline is a list of a probability and a perturbation made by name from settings
(`process_augmentations`; `register_perturbation` adds a kind); generators are a `Random` or a
`RandomState`.  Perturbing changes samples in single precision (gain, shift, white noise, noise at
a drawn ratio), each perturbation applied when its probability exceeds a draw.
-/

namespace Conversa.Callees

open Entry Numeric Speech Conversa.Language

def freshRandom : Data := objectData "Random" [("gauss_next", .null)]

def freshRandomState : Data := .dict [("repr", .str "RandomState(MT19937) at 0x0")]

def generatorOr (fresh : Data) (given : Data) : Data := if given.isNull then fresh else given

def perturbModule : String := "nemo.collections.asr.parts.preprocessing.perturb"

/-- The names of the perturbation kinds, in the order they are registered. -/
def perturbationKinds : List (String × String) :=
  [("speed", "SpeedPerturbation"), ("time_stretch", "TimeStretchPerturbation"),
   ("gain", "GainPerturbation"), ("impulse", "ImpulsePerturbation"), ("shift", "ShiftPerturbation"),
   ("noise", "NoisePerturbation"), ("white_noise", "WhiteNoisePerturbation"),
   ("rir_noise_aug", "RirAndNoisePerturbation"), ("transcode_aug", "TranscodePerturbation")]

/-- The manifests an argument names: one file, or a list of them. -/
def manifestFiles (d : Data) : Result (List String) :=
  match d with
  | .str s => .ok [s]
  | .list xs => .ok (xs.map Data.text)
  | other => .error (.type s!"'{other.kindName}' object is not iterable")

/-- The recordings of manifests as a transcribed collection indexed by file id, its texts read
with no labels. -/
def recordingsObject (d : Data) : Work Data := do
  let files ← manifestFiles (plain d)
  let tree := (← get).tree
  let us ← readManifests tree files (Utterance.read tree)
  let (kept, index) ← transcribed { indexByFileId := true } { labels := [] } us
  pure (objectData "ASRAudioText"
    [("mapping", .dict (index.map fun (k, n) => (k, .int n))),
     ("data", .list (kept.map fun (u, ids) =>
        .list [.int u.id, u.audioFile, u.duration, Data.ints ids, u.offset, u.text, u.speaker,
          u.origSampleRate]))])

def ratesData (low high count : Data) : Data :=
  arrayData "float64" (.floats (evenlySpaced (number low) (number high) ((count.int?.getD 0).toNat)))

def negativeRate : Failure := .value "Minimum sampling rate modifier must be > 0."

def checkRates (low high : Data) : Result Unit := do
  let least := if ← Data.lessThan high low then high else low
  if ← Data.lessThan least (.float 0.0) then throw negativeRate

def rateAttrs (low high count : Data) : Entries :=
  [("_min_rate", low), ("_max_rate", high), ("_num_rates", count)] ++
    (if (count.int?.getD 0) > 0 then [("_rates", ratesData low high count)] else [])

/-- A whole number as the integer conversion reads it. -/
def wholeNumber (d : Data) : Result Data :=
  match d with
  | .int _ => .ok d
  | .bool b => .ok (.int (if b then 1 else 0))
  | .float x =>
    if x.isNaN then .error (.value "cannot convert float NaN to integer")
    else if x.isInf then .error ⟨"OverflowError", "cannot convert float infinity to integer"⟩
    else .ok (.int (if x < 0 then -((-x).floor.toUInt64.toNat : Int) else (x.floor.toUInt64.toNat : Int)))
  | other => .error (.type s!"int() argument must be a string, a bytes-like object or a real number, not '{other.kindName}'")

/-- The attributes of a perturbation of a kind other than the combined one, from its
settings. -/
def kindAttrs (cls : String) (args : Arguments) : Work (Entries) := do
  let bind (params : List Param) : Work (List Data) := (args.bind s!"{cls}.__init__" params)
  match cls with
  | "SpeedPerturbation" => do
    let v ← bind [req "sr", req "resample_type", opt "min_speed_rate" (.float 0.9),
      opt "max_speed_rate" (.float 1.1), opt "num_rates" (.int 5), opt "rng" .null]
    let (low, high, count) := (plain (arg v 2), plain (arg v 3), plain (arg v 4))
    checkRates low high
    let kind := plain (arg v 1)
    if !(["kaiser_best", "kaiser_fast", "fft", "scipy"].any fun k => kind.same (.str k)) then
      throw (.value "Supported \x60resample_type\x60 values are ('kaiser_best', 'kaiser_fast', 'fft', 'scipy')")
    pure ([("_sr", plain (arg v 0))] ++ rateAttrs low high count ++
      [("_res_type", kind), ("_rng", generatorOr freshRandom (plain (arg v 5)))])
  | "TimeStretchPerturbation" => do
    let v ← bind [opt "min_speed_rate" (.float 0.9), opt "max_speed_rate" (.float 1.1),
      opt "num_rates" (.int 5), opt "n_fft" (.int 512), opt "rng" .null]
    let (low, high, count) := (plain (arg v 0), plain (arg v 1), plain (arg v 2))
    checkRates low high
    let fft ← wholeNumber (plain (arg v 3))
    let size := (fft.int?.getD 0)
    let hop := size / 2
    let phases (n : Int) : Data :=
      arrayData "float64" (.floats (evenlySpaced 0 (3.141592653589793 * n.toNat.toFloat) (n + 1).toNat))
    let buffer (n : Int) : Data := arrayData "float32" (.floats (List.replicate (n + 1).toNat 0.0))
    pure (rateAttrs low high count ++
      [("_rng", generatorOr freshRandom (plain (arg v 4))), ("_n_fft", fft), ("_hop_length", .int hop),
       ("_phi_advance_fast", phases hop), ("_scale_buffer_fast", buffer hop),
       ("_phi_advance_slow", phases size), ("_scale_buffer_slow", buffer size)])
  | "GainPerturbation" => do
    let v ← bind [opt "min_gain_dbfs" (.int (-10)), opt "max_gain_dbfs" (.int 10), opt "rng" .null]
    pure [("_min_gain_dbfs", plain (arg v 0)), ("_max_gain_dbfs", plain (arg v 1)),
      ("_rng", generatorOr freshRandom (plain (arg v 2)))]
  | "ImpulsePerturbation" => do
    let v ← bind [opt "manifest_path" .null, opt "rng" .null, opt "audio_tar_filepaths" .null,
      opt "shuffle_n" (.int 128), opt "shift_impulse" (.bool false)]
    let recordings ← recordingsObject (arg v 0)
    if (plain (arg v 2)).truthy then throw (.unavailable "webdataset")
    pure [("_manifest", recordings), ("_audiodataset", .null), ("_tarred_audio", .bool false),
      ("_shift_impulse", plain (arg v 4)), ("_data_iterator", .null),
      ("_rng", generatorOr freshRandom (plain (arg v 1)))]
  | "ShiftPerturbation" => do
    let v ← bind [opt "min_shift_ms" (.float (-5.0)), opt "max_shift_ms" (.float 5.0), opt "rng" .null]
    pure [("_min_shift_ms", plain (arg v 0)), ("_max_shift_ms", plain (arg v 1)),
      ("_rng", generatorOr freshRandom (plain (arg v 2)))]
  | "NoisePerturbation" => do
    let v ← bind [opt "manifest_path" .null, opt "min_snr_db" (.int 10), opt "max_snr_db" (.int 50),
      opt "max_gain_db" (.float 300.0), opt "rng" .null, opt "audio_tar_filepaths" .null,
      opt "shuffle_n" (.int 100), opt "orig_sr" (.int 16000)]
    let recordings ← recordingsObject (arg v 0)
    if (plain (arg v 5)).truthy then throw (.unavailable "webdataset")
    pure [("_manifest", recordings), ("_audiodataset", .null), ("_tarred_audio", .bool false),
      ("_orig_sr", plain (arg v 7)), ("_data_iterator", .null),
      ("_rng", generatorOr freshRandom (plain (arg v 4))), ("_min_snr_db", plain (arg v 1)),
      ("_max_snr_db", plain (arg v 2)), ("_max_gain_db", plain (arg v 3))]
  | "WhiteNoisePerturbation" => do
    let v ← bind [opt "min_level" (.int (-90)), opt "max_level" (.int (-46)), opt "rng" .null]
    let low ← wholeNumber (plain (arg v 0))
    let high ← wholeNumber (plain (arg v 1))
    pure [("min_level", low), ("max_level", high), ("_rng", generatorOr freshRandomState (plain (arg v 2)))]
  | "TranscodePerturbation" => do
    let v ← bind [opt "rng" .null]
    pure [("_rng", generatorOr freshRandomState (plain (arg v 0))), ("_codecs", Data.strs ["g711", "amr-nb"])]
  | _ => do
    let _ ← bind []
    pure []

/-- The attributes of the combined perturbation: an impulse perturbation and noise
perturbations by sample rate, in front and behind. -/
def combinedAttrs (args : Arguments) : Work (Entries) := do
  let cls := "RirAndNoisePerturbation"
  let bind (params : List Param) : Work (List Data) := (args.bind s!"{cls}.__init__" params)
  let v ← bind [opt "rir_manifest_path" .null, opt "rir_prob" (.float 0.5), opt "noise_manifest_paths" .null,
    opt "min_snr_db" (.int 0), opt "max_snr_db" (.int 50), opt "rir_tar_filepaths" .null,
    opt "rir_shuffle_n" (.int 100), opt "noise_tar_filepaths" .null, opt "apply_noise_rir" (.bool false),
    opt "orig_sample_rate" .null, opt "max_additions" (.int 5), opt "max_duration" (.float 2.0),
    opt "bg_noise_manifest_paths" .null, opt "bg_min_snr_db" (.int 10), opt "bg_max_snr_db" (.int 50),
    opt "bg_noise_tar_filepaths" .null, opt "bg_orig_sample_rate" .null]
  let arg (i : Nat) : Data := plain (v.getD i .null)
  let rir ← kindAttrs "ImpulsePerturbation"
    ⟨[], [("manifest_path", arg 0), ("audio_tar_filepaths", arg 5), ("shuffle_n", arg 6),
      ("shift_impulse", .bool true)]⟩
  let noises (paths rates lows highs tars : Data) : Work Data := do
    if !paths.truthy then return .dict []
    paths.items.zipIdx.foldlM (fun (acc : Data) (p, i) => do
      let rate ← if rates.isNull then pure (Data.int 16000) else (rates.item i)
      let attrs ← kindAttrs "NoisePerturbation"
        ⟨[], [("manifest_path", p), ("min_snr_db", ← lows.item i),
          ("max_snr_db", ← highs.item i), ("audio_tar_filepaths", ← tars.item i),
          ("orig_sr", rate)]⟩
      pure (acc.set rate.show (objectData "NoisePerturbation" attrs))) (.dict [])
  let fg ← noises (arg 2) (arg 9) (arg 3) (arg 4) (arg 7)
  let bg ← noises (arg 12) (arg 16) (arg 13) (arg 14) (arg 15)
  pure [("_rir_prob", arg 1), ("_rng", freshRandom), ("_rir_perturber", objectData "ImpulsePerturbation" rir),
    ("_fg_noise_perturbers", fg), ("_bg_noise_perturbers", bg), ("_max_additions", arg 10),
    ("_max_duration", arg 11), ("_apply_noise_rir", arg 8)]

def perturbationAttrs (cls : String) (args : Arguments) : Work (Entries) :=
  if cls == "RirAndNoisePerturbation" then combinedAttrs args else kindAttrs cls args

def allowedLength (p : Data) (length : Data) : Result Data := do
  match className? p with
  | some "SpeedPerturbation" | some "TimeStretchPerturbation" => Data.times length (← attr p "_max_rate")
  | some _ => pure length
  | none => throw (noAttribute p.kindName "max_augmentation_length")

def pairFailure (d : Data) : Failure :=
  match d with
  | .list xs =>
    if xs.length < 2 then .value s!"not enough values to unpack (expected 2, got {xs.length})"
    else .value "too many values to unpack (expected 2)"
  | other => .type s!"cannot unpack non-iterable {other.kindName} object"

def pipelineEntry (d : Data) : Result (Data × Data) :=
  match d with
  | .list [prob, p] => .ok (prob, p)
  | other => .error (pairFailure other)

/-! ## Drawing -/

/-- The generator an object holds as `_rng`: one made from a seed, or a fresh one, whose unknown
seed is taken as nought. -/
def heldGenerator (d : Data) (use : String) : Result Generator :=
  match generator? d, className? d, d.getD "repr" with
  | some g, _, _ => .ok g
  | none, some "Random", _ => .ok (Generator.standard 0)
  | none, none, .str "RandomState(MT19937) at 0x0" => .ok (Generator.array 0)
  | _, _, _ => .error (noAttribute ((className? d).getD (plain d).kindName) use)

/-- A draw from the object's own generator, which keeps the generator after it. -/
def drawOwn {α : Type} (use : String) (f : Generator → Result (α × Generator)) : Method α := do
  let (a, g) ← f (← heldGenerator (← Method.attr "_rng") use)
  Method.setAttr "_rng" (generatorData g)
  pure a

def drawUniform (a b : Data) : Method Float := drawOwn "uniform" fun g => .ok (g.uniform (number a) (number b))

def drawBetween (a b : Int) : Method Int := drawOwn "randint" fun g => g.range a (b + 1)

/-! ## Segments -/

def segmentSamples (seg : Data) : Result (List Float32) := do
  pure (singleSamples (← attr seg "_samples"))

def segmentRate (seg : Data) : Result Float := do pure (number (plain (← attr seg "_sample_rate")))

def segmentDuration (seg : Data) : Result Float := do
  let n := (← segmentSamples seg).length
  let rate ← segmentRate seg
  if rate == 0.0 then throw ⟨"ZeroDivisionError", "float division by zero"⟩
  pure (n.toFloat / rate)

def withSamples (seg : Data) (xs : List Float32) : Data := setAttr seg "_samples" (samplesData xs)

def addedAt (xs : List Float32) (i : Nat) (ys : List Float32) : List Float32 :=
  xs.take i ++ List.zipWith (· + ·) (xs.drop i) ys ++ xs.drop (i + ys.length)

/-- Samples moved `k` places back (forward for a negative `k`), zeros filling in. -/
def shifted (xs : List Float32) (k : Int) : List Float32 :=
  let m := min k.natAbs xs.length
  if k > 0 then xs.drop m ++ List.replicate m 0
  else List.replicate m 0 ++ xs.take (xs.length - m)

/-- The quotient of a double by a whole number, rounded down exactly. -/
def floorQuotientBy (x : Float) (d : Nat) : Int :=
  let (m, q) := exactScaled x
  if q ≥ 0 then Int.fdiv (m * Int.pow 2 q.toNat) d else Int.fdiv m (d * Int.pow 2 (-q).toNat)

/-! ## Noise -/

/-- A level in decibels as array arithmetic holds it: in single precision, or as a double. -/
inductive Level where
  | single (x : Float32)
  | double (x : Float)

/-- The factor a gain in decibels scales samples by, `10^(gain/20)`, in the gain's precision. -/
def Level.factor : Level → Float32
  | .single x => Float32.pow 10 (x / 20)
  | .double x => (Float.pow 10.0 (x / 20.0)).toFloat32

/-- A level given as a number, or nothing. -/
def givenLevel (d : Data) : Option Level := if d.isNull then none else some (.double (number d))

/-- The gain that puts noise at a signal-to-noise ratio below a signal's level, in single
precision, unless the largest gain allowed is smaller. -/
def noiseGain (signal : Level) (noise : Float32) (snr : Float) (most : Data) : Level :=
  let s := match signal with
    | .single x => x
    | .double x => x.toFloat32
  let g := s - noise - snr.toFloat32
  if (number most).toFloat32 < g then .double (number most) else .single g

/-- The ratio drawn and the gain for noise under a signal, by the noise perturbation the method
acts on. -/
def drawnGain (xs ns : List Float32) (given : Option Level) : Method Level := do
  let snr ← drawUniform (← Method.attr "_min_snr_db") (← Method.attr "_max_snr_db")
  pure (noiseGain (given.getD (.single (rmsLevel xs))) (rmsLevel ns) snr (← Method.attr "_max_gain_db"))

/-- Noise added under a signal: a stretch as long as the signal cut from a drawn start when the
noise is longer, added at a drawn position when shorter.  Gives the signal and the noise after. -/
def inputNoise (data noise : Data) (given : Option Level) : Method (Data × Data) := do
  let xs ← segmentSamples data
  let ns ← segmentSamples noise
  let gain ← drawnGain xs ns given
  let long ← segmentDuration noise
  let short ← segmentDuration data
  let start ← drawUniform (.float 0.0) (.float (long - short))
  let ns ← if long > start + short then do
      let (lo, hi) ← cutBounds long (← segmentRate noise) (some start) (some (start + short))
      pure (Text.span ns lo hi)
    else pure ns
  let ns := ns.map (· * gain.factor)
  let noise := withSamples noise ns
  if ns.length < xs.length then
    let i ← drawBetween 0 (xs.length - ns.length : Nat)
    pure (withSamples data (addedAt xs i.toNat ns), noise)
  else if ns.length == xs.length then pure (withSamples data (List.zipWith (· + ·) xs ns), noise)
  else throw (.value
    s!"operands could not be broadcast together with shapes ({xs.length},) ({ns.length},) ({xs.length},) ")

/-- Pieces of noise added to a signal, as many as drawn up to `most`: each of a drawn length up
to `longest` seconds from a drawn start, cut to the signal's length, at a drawn position. -/
def foregroundNoise (data noise : Data) (given : Option Level) (longest : Data) (most : Int) : Method Data := do
  let xs ← segmentSamples data
  let ns ← segmentSamples noise
  let gain ← drawnGain xs ns given
  let count ← drawBetween 1 most
  let long ← segmentDuration noise
  let rate ← segmentRate noise
  let place (x : Float) : Int := truncToInt (roundToEven (x * rate))
  let mut xs := xs
  for _ in List.range count.toNat do
    let dur ← drawUniform (.float 0.0) longest
    let start ← drawUniform (.float 0.0) (.float long)
    let piece := ((Text.span ns (place start) (place (min long (start + dur)))).map (· * gain.factor)).take xs.length
    let i ← drawBetween 0 (xs.length - piece.length : Nat)
    xs := addedAt xs i.toNat piece
  pure (withSamples data xs)

/-- White noise added at a whole level drawn below the greatest: normal deviates scaled by
`10^(level/20)`, added in doubles. -/
def whiteNoise (data : Data) : Method Data := do
  let lo := (← Method.attr "min_level").int?.getD 0
  let hi := (← Method.attr "max_level").int?.getD 0
  let level ← drawOwn "randint" fun g =>
    if hi - 1 < lo then .error (.value "low >= high")
    else
      let (v, g) := g.masked (hi - 1 - lo).toNat.toUInt32
      .ok (lo + v.toNat, g)
  let k := Float.pow 10.0 (Float.ofInt level / 20.0)
  let xs ← segmentSamples data
  let ns ← drawOwn "randn" fun g =>
    .ok (xs.foldl (fun (acc, g) _ => let (n, g) := g.gauss; (acc ++ [n], g)) ([], g))
  pure (withSamples data (List.zipWith (fun x n => (x.toFloat + n * k).toFloat32) xs ns))

/-- The key of the noise perturbation for a sample rate: the rate's own, else the greatest. -/
def perturberKey (table rate : Data) : Result String := do
  let keys := table.entries.map (·.1)
  let below (a b : String) : Bool := match a.toInt?, b.toInt? with
    | some m, some n => m < n
    | _, _ => a < b
  if keys.contains (keyText rate) then return keyText rate
  match keys with
  | [] => throw (.value "max() arg is an empty sequence")
  | k :: ks => pure (ks.foldl (fun a b => if below a b then b else a) k)

/-- A noise sample a noise perturbation reads for a sample rate, with the perturbation after. -/
def noiseSample (p rate : Data) : Work (Data × Data) := do
  if (attrsOf p).any (·.1 == "get_one_noise_sample") then invokeIn p ["get_one_noise_sample"] [rate] []
  else if (className? p).isSome then throw (.unavailable "librosa")
  else throw (noAttribute (plain p).kindName "get_one_noise_sample")

/-- The failure of convolving with an impulse response: it needs an audio library. -/
def impulseFailure (rir : Data) : Failure :=
  if (className? rir).isSome then (.unavailable "librosa") else noAttribute (plain rir).kindName "perturb"

/-- A segment under the combined perturbation the method acts on: no impulse response (whose
probability stays above a draw), then noise in front and behind at the segment's own level. -/
def combinedPerturb (seg : Data) : Method Data := do
  let prob ← drawUniform (.float 0.0) (.float 1.0)
  if prob < number (← Method.attr "_rir_prob") then throw (impulseFailure (← Method.attr "_rir_perturber"))
  let sr ← attr seg "_orig_sr"
  let fg ← Method.attr "_fg_noise_perturbers"
  let fgKey ← perturberKey fg sr
  let bgKey ← perturberKey (← Method.attr "_bg_noise_perturbers") sr
  let level := Level.single (rmsLevel (← segmentSamples seg))
  let rate ← attr seg "_sample_rate"
  let (noise, p) ← (noiseSample (fg.getD fgKey) rate)
  if (← Method.attr "_apply_noise_rir").truthy then throw (impulseFailure (← Method.attr "_rir_perturber"))
  let most := (← Method.attr "_max_additions").int?.getD 0
  let (seg, frame) ← Method.work
    ((foregroundNoise seg noise (some level) (← Method.attr "_max_duration") most).run { this := p })
  Method.setAttr "_fg_noise_perturbers" (fg.set fgKey frame.this)
  let bg ← Method.attr "_bg_noise_perturbers"
  let (noise, p) ← (noiseSample (bg.getD bgKey) rate)
  let ((seg, _), frame) ← ((inputNoise seg noise (some level)).run { this := p })
  Method.setAttr "_bg_noise_perturbers" (bg.set bgKey frame.this)
  pure seg

def perturbOwn (seg : Data) : Method Data := do
  let self ← Method.this
  let some cls := className? self | throw (noAttribute (plain self).kindName "perturb")
  let samples : Method (List Float32) := (segmentSamples seg)
  match cls with
  | "Perturbation" => Method.fail ⟨"NotImplementedError", ""⟩
  | "GainPerturbation" => do
    let gain ← drawUniform (← Method.attr "_min_gain_dbfs") (← Method.attr "_max_gain_dbfs")
    pure (withSamples seg (amplified gain (← samples)))
  | "ShiftPerturbation" => do
    let ms ← drawUniform (← Method.attr "_min_shift_ms") (← Method.attr "_max_shift_ms")
    if (className? seg).isNone then throw (noAttribute (plain seg).kindName "duration")
    if ms.abs / 1000.0 > (← segmentDuration seg) then return seg
    let k := floorQuotientBy (ms * (← segmentRate seg)) 1000
    pure (withSamples seg (shifted (← samples) k))
  | "WhiteNoisePerturbation" => whiteNoise seg
  | "RirAndNoisePerturbation" => combinedPerturb seg
  | "SpeedPerturbation" | "TimeStretchPerturbation" => do
    let rate ← if number (← Method.attr "_num_rates") < 0 then
        drawUniform (← Method.attr "_min_rate") (← Method.attr "_max_rate")
      else do
        let held ← Method.attr "_rates"
        let rates := ((held.get? "ndarray").getD (arrayOf held).1).items
        drawOwn "choice" fun g => do
          let (r, g) ← g.choose rates
          pure (number r, g)
    if rate == 1.0 then return seg
    Method.fail (.unavailable "librosa")
  | _ =>
    if (className? seg).isSome then Method.fail (.unavailable "librosa")
    throw (noAttribute (plain seg).kindName "_samples")

/-- A segment perturbed by each perturbation of the pipeline the method acts on whose probability
exceeds a draw, in turn. -/
def augmentSegment (seg : Data) : Method Data := do
  let mut seg := seg
  let mut done : List Data := []
  for entry in (← Method.attr "_pipeline").items do
    let (prob, p) ← pipelineEntry entry
    let r ← drawOwn "random" fun g => .ok g.random
    let mut p := p
    if r < number prob then
      let (after, frame) ← ((perturbOwn seg).run { this := p })
      seg := after
      p := frame.this
    done := done ++ [.list [prob, p]]
  Method.setAttr "_pipeline" (.list done)
  pure seg

def pipelineLength (length : Data) : Method Data := do
  ((← Method.attr "_pipeline").items.foldlM (fun len entry => do
    let (_, p) ← pipelineEntry entry
    allowedLength p len) length)

def perturbationAct (step : Step) : Work Data := do
  let self ← Work.this
  let cls := (className? self).getD "Perturbation"
  match step with
  | .read "orig_sr" =>
    if cls == "NoisePerturbation" then (attr self "_orig_sr") else (readPath self "orig_sr")
  | .read path => readPath self path
  | .call "max_augmentation_length" args => do
    let v ← args.bind s!"{cls}.max_augmentation_length" [req "length"]
    allowedLength self (plain (arg v 0))
  | .call "perturb" args => do
    let v ← args.bind s!"{cls}.perturb" [req "data"]
    let (_, frame) ← (perturbOwn (intake (arg v 0))).run { this := self }
    Work.setThis frame.this
    pure .null
  | .call name _ => throw (noAttribute cls name)

def perturbationCallee (cls : String) : Callee := fun r => do
  let attrs ← perturbationAttrs cls r.args.intake
  pure { value := objectData cls attrs, act := perturbationAct }

def augmentorAct (step : Step) : Work Data := do
  let self ← Work.this
  match step with
  | .read path => readPath self path
  | .call "max_augmentation_length" args => do
    let v ← args.bind "AudioAugmentor.max_augmentation_length" [req "length"]
    pure (← (pipelineLength (plain (arg v 0))).run { this := self }).1
  | .call "perturb" args => do
    let v ← args.bind "AudioAugmentor.perturb" [req "segment"]
    let (_, frame) ← (augmentSegment (intake (arg v 0))).run { this := self }
    Work.setThis frame.this
    pure .null
  | .call name _ => throw (noAttribute "AudioAugmentor" name)

def augmentorData (pipeline : Data) (rng : Data) : Data :=
  objectData "AudioAugmentor" [("_rng", generatorOr freshRandom rng), ("_pipeline", pipeline)]

/-- The class and settings of a value written as a constructor call of this module. -/
def madeOf? (d : Data) : Option (String × Arguments) :=
  match d.get? "$new" with
  | some (.str ref) =>
    if ref.startsWith (perturbModule ++ ":") then
      some (shortName ref, ⟨(d.getD "args").items, (d.getD "kwargs").entries⟩)
    else none
  | _ => none

/-- A perturbation written as its constructor call, made from its settings. -/
def madePerturbation (d : Data) : Work Data :=
  match madeOf? d with
  | some (cls, args) => do pure (objectData cls (← perturbationAttrs cls args))
  | none => pure d

/-- A pipeline from its settings, the perturbations of its entries made. -/
def augmentorOf (args : Arguments) : Work Data := do
  let v ← args.bind "AudioAugmentor.__init__" [opt "perturbations" .null, opt "rng" .null]
  let given := plain (arg v 0)
  let entries ← given.items.mapM fun e => match plain e with
    | .list [prob, p] => do pure (Data.list [prob, ← madePerturbation p])
    | other => pure other
  pure (augmentorData (.list entries) (plain (arg v 1)))

/-- A value written as a constructor call of this module, made from its settings. -/
def made (d : Data) : Work Data :=
  match madeOf? d with
  | some ("AudioAugmentor", args) => augmentorOf args
  | _ => madePerturbation d

def augmentorCallee : Callee := fun r => do
  pure { value := ← augmentorOf r.args.intake, act := augmentorAct }

/-- A method of a perturbation or pipeline, on the object made from its settings when it is
written as its constructor call. -/
def madeMethod (name : String) (params : List Param) (body : List Data → Method Data) : Callee :=
  method name params fun vals => do
    Method.setThis (← (made (← Method.this)))
    body vals

def unknownKind : Failure :=
  let names := ", ".intercalate (perturbationKinds.map fun (n, _) => Text.quote n)
  .key (Text.quote s!"Invalid perturbation name. Allowed values : dict_keys([{names}])")

def pipelineOf (spec : Entries) : Work Data := do
  let entries ← spec.mapM fun (name, settings) => do
    let prob ← match settings with
      | .dict kvs => pure ((kvs.find? (·.1 == "prob")).map (·.2))
      | other => throw (noAttribute other.kindName "get")
    let some prob := prob.filter (!·.isNull)
      | throw (.key (Text.quote s!"Augmentation \"{name}\" will not be applied as keyword argument \"prob\" was not defined for this augmentation."))
    if (← Data.lessThan prob (.float 0.0)) || (← Data.greaterThan prob (.float 1.0)) then
      throw (.value "\x60prob\x60 must be a float value between 0 and 1.")
    let rest := settings.erase "prob"
    let some (_, cls) := perturbationKinds.find? (·.1 == name) | throw unknownKind
    let attrs ← tryCatch (perturbationAttrs cls ⟨[], rest.entries⟩) fun e =>
      if e.kind == "KeyError" then throw unknownKind else throw e
    pure (Data.list [prob, objectData cls attrs])
  pure (augmentorData (.list entries) .null)

def processAugmentationsCallee : Callee :=
  function "process_augmentations" [req "augmenter"] fun v => do
    let given := arg v 0
    match plain given with
    | .null => pure .null
    | .dict kvs =>
      if className? (.dict kvs) == some "AudioAugmentor" then pure (.dict kvs) else pipelineOf kvs
    | _ => throw (.value "Cannot parse augmenter. Must be a dict or an AudioAugmentor object ")

/-- `register_perturbation`: only new names are taken. -/
def registerCallee : Callee :=
  function "register_perturbation" [req "name", req "perturbation"] fun v => do
    let name := (plain (arg v 0)).text
    match perturbationKinds.find? (·.1 == name) with
    | some (_, cls) =>
      throw (.key (Text.quote s!"Perturbation with the name {name} exists. Type of perturbation : <class '{perturbModule}.{cls}'>."))
    | none => pure .null

def perturbationCallees : List (String × Callee) :=
  let target := perturbModule ++ ":"
  let perturbing := madeMethod "perturb" [req "data"] fun v => do
    Method.setArgument 0 (← perturbOwn (arg v 0))
    pure .null
  [(target ++ "process_augmentations", processAugmentationsCallee),
   (target ++ "register_perturbation", registerCallee),
   (target ++ "AudioAugmentor", augmentorCallee),
   (target ++ "Perturbation", perturbationCallee "Perturbation"),
   (target ++ "Perturbation.perturb", perturbing),
   (target ++ "AudioAugmentor.perturb", madeMethod "perturb" [req "segment"] fun v => do
      Method.setArgument 0 (← augmentSegment (arg v 0))
      pure .null),
   (target ++ "AudioAugmentor.max_augmentation_length",
      madeMethod "max_augmentation_length" [req "length"] fun v => pipelineLength (arg v 0)),
   (target ++ "NoisePerturbation.orig_sr.fget", madeMethod "orig_sr" [] fun _ => Method.attr "_orig_sr"),
   (target ++ "NoisePerturbation.perturb_with_input_noise",
      madeMethod "perturb_with_input_noise" [req "data", req "noise", opt "data_rms" .null] fun v => do
        let (data, noise) ← inputNoise (arg v 0) (arg v 1) (givenLevel (arg v 2))
        Method.setArgument 0 data
        Method.setArgument 1 noise
        pure .null),
   (target ++ "NoisePerturbation.perturb_with_foreground_noise",
      madeMethod "perturb_with_foreground_noise" [req "data", req "noise", opt "data_rms" .null,
        opt "max_noise_dur" (.int 2), opt "max_additions" (.int 1)] fun v => do
        let given := if (arg v 2).truthy then givenLevel (arg v 2) else none
        let most := truncToInt (number (arg v 4))
        Method.setArgument 0 (← foregroundNoise (arg v 0) (arg v 1) given (arg v 3) most)
        pure .null)] ++
  perturbationKinds.flatMap fun (_, cls) =>
    [(target ++ cls, perturbationCallee cls), (target ++ cls ++ ".perturb", perturbing)]

end Conversa.Callees
