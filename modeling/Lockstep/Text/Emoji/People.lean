/-! People and hands, whose names may say a skin tone. -/
namespace Lockstep.Emoji

set_option maxRecDepth 8000

def people : List (String × String) := [
  ("☝", "index_pointing_up"), ("⛹", "person_bouncing_ball"), ("⛹️‍♀️", "woman_bouncing_ball"),
  ("⛹️‍♂️", "man_bouncing_ball"), ("✊", "raised_fist"), ("✋", "raised_hand"), ("✌", "victory_hand"),
  ("✍", "writing_hand"), ("🎅", "santa_claus"), ("🏂", "snowboarder"), ("🏃", "person_running"),
  ("🏃‍♀️", "woman_running"), ("🏃‍♂️", "man_running"), ("🏄", "person_surfing"),
  ("🏄‍♀️", "woman_surfing"), ("🏄‍♂️", "man_surfing"), ("🏇", "horse_racing"),
  ("🏊", "person_swimming"), ("🏊‍♀️", "woman_swimming"), ("🏊‍♂️", "man_swimming"),
  ("🏋", "person_lifting_weights"), ("🏋️‍♀️", "woman_lifting_weights"),
  ("🏋️‍♂️", "man_lifting_weights"), ("🏌", "person_golfing"), ("🏌️‍♀️", "woman_golfing"),
  ("🏌️‍♂️", "man_golfing"), ("👂", "ear"), ("👃", "nose"), ("👆", "backhand_index_pointing_up"),
  ("👇", "backhand_index_pointing_down"), ("👈", "backhand_index_pointing_left"),
  ("👉", "backhand_index_pointing_right"), ("👊", "oncoming_fist"), ("👋", "waving_hand"),
  ("👌", "ok_hand"), ("👍", "thumbs_up"), ("👎", "thumbs_down"), ("👏", "clapping_hands"),
  ("👐", "open_hands"), ("👦", "boy"), ("👧", "girl"), ("👨", "man"), ("👨‍⚕️", "man_health_worker"),
  ("👨‍⚖️", "man_judge"), ("👨‍✈️", "man_pilot"), ("👨‍🌾", "man_farmer"), ("👨‍🍳", "man_cook"),
  ("👨‍🎓", "man_student"), ("👨‍🎤", "man_singer"), ("👨‍🎨", "man_artist"), ("👨‍🏫", "man_teacher"),
  ("👨‍🏭", "man_factory_worker"), ("👨‍💻", "man_technologist"), ("👨‍💼", "man_office_worker"),
  ("👨‍🔧", "man_mechanic"), ("👨‍🔬", "man_scientist"), ("👨‍🚀", "man_astronaut"),
  ("👨‍🚒", "man_firefighter"), ("👩", "woman"), ("👩‍⚕️", "woman_health_worker"),
  ("👩‍⚖️", "woman_judge"), ("👩‍✈️", "woman_pilot"), ("👩‍🌾", "woman_farmer"), ("👩‍🍳", "woman_cook"),
  ("👩‍🎓", "woman_student"), ("👩‍🎤", "woman_singer"), ("👩‍🎨", "woman_artist"),
  ("👩‍🏫", "woman_teacher"), ("👩‍🏭", "woman_factory_worker"), ("👩‍💻", "woman_technologist"),
  ("👩‍💼", "woman_office_worker"), ("👩‍🔧", "woman_mechanic"), ("👩‍🔬", "woman_scientist"),
  ("👩‍🚀", "woman_astronaut"), ("👩‍🚒", "woman_firefighter"), ("👮", "police_officer"),
  ("👮‍♀️", "woman_police_officer"), ("👮‍♂️", "man_police_officer"), ("👰", "bride_with_veil"),
  ("👱", "blond-haired_person"), ("👱‍♀️", "blond-haired_woman"), ("👱‍♂️", "blond-haired_man"),
  ("👲", "man_with_chinese_cap"), ("👳", "person_wearing_turban"), ("👳‍♀️", "woman_wearing_turban"),
  ("👳‍♂️", "man_wearing_turban"), ("👴", "old_man"), ("👵", "old_woman"), ("👶", "baby"),
  ("👷", "construction_worker"), ("👷‍♀️", "woman_construction_worker"),
  ("👷‍♂️", "man_construction_worker"), ("👸", "princess"), ("👼", "baby_angel"),
  ("💁", "person_tipping_hand"), ("💁‍♀️", "woman_tipping_hand"), ("💁‍♂️", "man_tipping_hand"),
  ("💂", "guard"), ("💂‍♀️", "woman_guard"), ("💂‍♂️", "man_guard"), ("💃", "woman_dancing"),
  ("💅", "nail_polish"), ("💆", "person_getting_massage"), ("💆‍♀️", "woman_getting_massage"),
  ("💆‍♂️", "man_getting_massage"), ("💇", "person_getting_haircut"),
  ("💇‍♀️", "woman_getting_haircut"), ("💇‍♂️", "man_getting_haircut"), ("💪", "flexed_biceps"),
  ("🕴", "man_in_suit_levitating"), ("🕵", "detective"), ("🕵️‍♀️", "woman_detective"),
  ("🕵️‍♂️", "man_detective"), ("🕺", "man_dancing"), ("🖐", "hand_with_fingers_splayed"),
  ("🖕", "middle_finger"), ("🖖", "vulcan_salute"), ("🙅", "person_gesturing_no"),
  ("🙅‍♀️", "woman_gesturing_no"), ("🙅‍♂️", "man_gesturing_no"), ("🙆", "person_gesturing_ok"),
  ("🙆‍♀️", "woman_gesturing_ok"), ("🙆‍♂️", "man_gesturing_ok"), ("🙇", "person_bowing"),
  ("🙇‍♀️", "woman_bowing"), ("🙇‍♂️", "man_bowing"), ("🙋", "person_raising_hand"),
  ("🙋‍♀️", "woman_raising_hand"), ("🙋‍♂️", "man_raising_hand"), ("🙌", "raising_hands"),
  ("🙍", "person_frowning"), ("🙍‍♀️", "woman_frowning"), ("🙍‍♂️", "man_frowning"),
  ("🙎", "person_pouting"), ("🙎‍♀️", "woman_pouting"), ("🙎‍♂️", "man_pouting"),
  ("🙏", "folded_hands"), ("🚣", "person_rowing_boat"), ("🚣‍♀️", "woman_rowing_boat"),
  ("🚣‍♂️", "man_rowing_boat"), ("🚴", "person_biking"), ("🚴‍♀️", "woman_biking"),
  ("🚴‍♂️", "man_biking"), ("🚵", "person_mountain_biking"), ("🚵‍♀️", "woman_mountain_biking"),
  ("🚵‍♂️", "man_mountain_biking"), ("🚶", "person_walking"), ("🚶‍♀️", "woman_walking"),
  ("🚶‍♂️", "man_walking"), ("🛀", "person_taking_bath"), ("🛌", "person_in_bed"),
  ("🤘", "sign_of_the_horns"), ("🤙", "call_me_hand"), ("🤚", "raised_back_of_hand"),
  ("🤛", "left-facing_fist"), ("🤜", "right-facing_fist"), ("🤞", "crossed_fingers"),
  ("🤟", "love-you_gesture"), ("🤦", "person_facepalming"), ("🤦‍♀️", "woman_facepalming"),
  ("🤦‍♂️", "man_facepalming"), ("🤰", "pregnant_woman"), ("🤱", "breast-feeding"),
  ("🤲", "palms_up_together"), ("🤳", "selfie"), ("🤴", "prince"), ("🤵", "man_in_tuxedo"),
  ("🤶", "mrs._claus"), ("🤷", "person_shrugging"), ("🤷‍♀️", "woman_shrugging"),
  ("🤷‍♂️", "man_shrugging"), ("🤸", "person_cartwheeling"), ("🤸‍♀️", "woman_cartwheeling"),
  ("🤸‍♂️", "man_cartwheeling"), ("🤹", "person_juggling"), ("🤹‍♀️", "woman_juggling"),
  ("🤹‍♂️", "man_juggling"), ("🤽", "person_playing_water_polo"),
  ("🤽‍♀️", "woman_playing_water_polo"), ("🤽‍♂️", "man_playing_water_polo"),
  ("🤾", "person_playing_handball"), ("🤾‍♀️", "woman_playing_handball"),
  ("🤾‍♂️", "man_playing_handball"), ("🧑", "adult"), ("🧒", "child"), ("🧓", "older_adult"),
  ("🧔", "bearded_person"), ("🧕", "woman_with_headscarf"), ("🧖", "person_in_steamy_room"),
  ("🧖‍♀️", "woman_in_steamy_room"), ("🧖‍♂️", "man_in_steamy_room"), ("🧗", "person_climbing"),
  ("🧗‍♀️", "woman_climbing"), ("🧗‍♂️", "man_climbing"), ("🧘", "person_in_lotus_position"),
  ("🧘‍♀️", "woman_in_lotus_position"), ("🧘‍♂️", "man_in_lotus_position"), ("🧙", "mage"),
  ("🧙‍♀️", "woman_mage"), ("🧙‍♂️", "man_mage"), ("🧚", "fairy"), ("🧚‍♀️", "woman_fairy"),
  ("🧚‍♂️", "man_fairy"), ("🧛", "vampire"), ("🧛‍♀️", "woman_vampire"), ("🧛‍♂️", "man_vampire"),
  ("🧜", "merperson"), ("🧜‍♀️", "mermaid"), ("🧜‍♂️", "merman"), ("🧝", "elf"), ("🧝‍♀️", "woman_elf"),
  ("🧝‍♂️", "man_elf")]

end Lockstep.Emoji
