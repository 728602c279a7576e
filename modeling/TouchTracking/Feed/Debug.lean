import TouchTracking.Feed.Basic
import TouchTracking.Text.Quoted

/-! A feed in one line for whoever inspects a running system. -/
namespace TouchTracking.Feed

def Format.word : Format → String
  | .image => "Image"
  | .touch => "Touch"

def debugText {α : Type} (feed : Feed α) : String :=
  "DataStream \x7b name: " ++ Text.quoted feed.name ++ ", format: " ++ feed.format.word ++
    s!", sequence: {feed.sequence}, observers: {feed.observers.length} \x7d"

end TouchTracking.Feed
