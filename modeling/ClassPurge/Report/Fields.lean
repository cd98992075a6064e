import ClassPurge.Check
import ClassPurge.Report.Basic

/-!
Reports as records of named fields. Lists default to empty ones, numbers to nought.
-/

namespace ClassPurge

open Check

def SourceFile.ofFields (loc : List String) (es : List (Document × Document)) :
    Checked SourceFile :=
  apply (apply ((required text loc "path" es).map SourceFile.mk)
    (optional texts [] loc "classes_found" es))
    (optional int 0 loc "byte_size" es)

def SourceFile.ofDocument : List String → Document → Checked SourceFile :=
  fields "FileAnalysis" SourceFile.ofFields

def Report.ofFields (loc : List String) (es : List (Document × Document)) : Checked Report :=
  let counts := apply (apply ((required int loc "total_classes" es).map Report.mk)
    (required int loc "used_classes" es)) (required int loc "purged_classes" es)
  let names := apply (apply counts (optional texts [] loc "purged_class_names" es))
    (optional texts [] loc "safelist" es)
  apply (apply names (optional natural 0 loc "build_time_ms" es))
    (optional (list SourceFile.ofDocument) [] loc "file_analysis" es)

def Report.ofDocument (d : Document) : Checked Report := fields "PurgeReport" Report.ofFields [] d

end ClassPurge
