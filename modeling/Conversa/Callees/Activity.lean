import Conversa.Entry.Call
import Conversa.Speech.Activity

/-!
# Voice activity tools by name

* `generate_overlap_vad_seq_per_file(frame_filepath, per_args)` and the script's
  `gen_overlap_seq(frame_filepath, per_args)` smooth the frame scores of a file into
  `<out_dir>/<name>.<method>`;
* `get_vad_stream_status(data)` marks how snippets continue their recordings;
* `pred_rttm_map(vad_pred, groundtruth_RTTM, vad_pred_method="frame")` pairs prediction files
  with reference files by name; each side is a file listing paths, or a directory whose files
  with the right extension are taken.
-/

namespace Conversa.Callees

open Entry Speech

/-- A setting of a mapping of settings, refused when missing. -/
def setting (settings : Data) (k : String) : Work Data := (settings.key k)

def frameScores (path : String) : Work (List Float) := do
  let some text := (← get).tree.read? path | throw ⟨"FileNotFoundError", s!"{path} not found."⟩
  let scores ← readScores text
  if scores.length == 1 then throw (.type "len() of unsized object")
  pure scores

/-- Smooths the scores of a frame file into a file beside the output directory, giving its path. -/
def smoothFile (methodKey : String) (badMethod : String) (path : String) (settings : Data) : Work String := do
  let method := (← setting settings methodKey).text
  let overlap ← setting settings "overlap"
  let segLen ← setting settings "seg_len"
  let shiftLen ← setting settings "shift_len"
  let outDir := (← setting settings "out_dir").text
  let scores ← frameScores path
  let name := ((FileSystem.name path).splitOn ".frame").headD "" ++ "." ++ method
  let target := FileSystem.join outDir name
  let num (d : Data) : Float := d.num?.getD 0.0
  let _ ← windowPlan (num overlap) (num segLen) (num shiftLen)
  let how ← match method with
    | "mean" => pure Smoothing.mean
    | "median" => pure Smoothing.median
    | _ => throw (.value badMethod)
  let smoothed ← smoothScores how (num overlap) (num segLen) (num shiftLen) scores
  Work.writeFile target (scoresText smoothed)
  pure target

def overlapPerFileCallee : Callee := function "generate_overlap_vad_seq_per_file"
    [req "frame_filepath", req "per_args"] fun vals => do
  let _ ← smoothFile "smoothing_method" "smoothing_method should be either mean or median"
    (arg vals 0).text (arg vals 1)
  pure .null

def overlapSeqCallee : Callee := function "gen_overlap_seq" [req "frame_filepath", req "per_args"] fun vals => do
  let target ← smoothFile "method" "method should be either mean or median" (arg vals 0).text (arg vals 1)
  Work.printLine s!"Finished! {target}!"
  pure .null

def streamStatusCallee : Callee := function "get_vad_stream_status" [req "data"] fun vals => do
  pure (Data.strs (streamStatus (plainArg vals 0).items))

/-- The paths a listing names: the lines of a file, or the files of a directory with an
extension, sorted. -/
def listedPaths (path ext : String) (failure : Failure) : Work (List String) := do
  let t := (← get).tree
  if t.isFile path then
    pure (((t.read? path).getD "").splitOn "\n" |> fun ls =>
      let ls := ls.map fun l => if l.endsWith "\r" then (l.dropEnd 1).toString else l
      if ls.getLast? == some "" then ls.dropLast else ls)
  else if t.isDir path then
    pure ((t.entries path).filter (fun n => n.endsWith ("." ++ ext) && !n.startsWith ".") |>.map (FileSystem.join path ·))
  else throw failure

/-- The name of a path without its last extension. -/
def stemOf (p : String) : String :=
  let n := FileSystem.name p
  match (n.toList.zipIdx.filter fun (c, _) => c == '.').getLast? with
  | some (_, i) => String.ofList (n.toList.take i)
  | none => n

/-- Entries by name, a later path of a name replacing an earlier one in place. -/
def byStem (paths : List String) : Entries :=
  paths.foldl (fun acc p =>
    let k := stemOf p
    if acc.any (·.1 == k) then acc.map fun (k', v) => if k' == k then (k', .str p) else (k', v)
    else acc ++ [(k, .str p)]) []

def predRttmCallee : Callee := function "pred_rttm_map"
    [req "vad_pred", req "groundtruth_RTTM", opt "vad_pred_method" (.str "frame")] fun vals => do
  let gt ← listedPaths (arg vals 1).text "rttm"
    (.value "groundtruth_RTTM should either be a directory contains rttm files or a file contains paths to them!")
  let gtMap := byStem gt
  let pred ← listedPaths (arg vals 0).text (arg vals 2).text
    (.value "vad_pred should either be a directory contains vad pred files or a file contains paths to them!")
  let predMap := byStem pred
  let paired := ((gtMap.map (·.1)).filter fun k => predMap.any (·.1 == k)).mergeSort fun a b => decide (a ≤ b)
  pure (.list [Data.strs paired, .dict gtMap, .dict predMap])

def activityCallees : List (String × Callee) :=
  [("nemo.collections.asr.parts.utils.vad_utils:generate_overlap_vad_seq_per_file", overlapPerFileCallee),
   ("scripts/voice_activity_detection/vad_overlap_posterior.py:gen_overlap_seq", overlapSeqCallee),
   ("nemo.collections.asr.parts.utils.vad_utils:get_vad_stream_status", streamStatusCallee),
   ("nemo.collections.asr.parts.utils.vad_utils:pred_rttm_map", predRttmCallee)]

end Conversa.Callees
