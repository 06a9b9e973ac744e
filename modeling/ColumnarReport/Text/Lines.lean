/-! Text as lines, each ended by a line feed. -/
namespace ColumnarReport
namespace Text

def unlines (lines : List String) : String := String.join (lines.map (·++"\n"))

theorem toList_unlines (lines : List String) :
    (unlines lines).toList = lines.flatMap fun line => line.toList++['\n'] := by
  simp [unlines,String.toList_join,List.flatMap_map]

theorem unlines_cons (line : String) (lines : List String) :
    unlines (line :: lines) = line++"\n"++unlines lines := by
  apply String.toList_inj.mp
  simp [toList_unlines]

end Text
end ColumnarReport
