import GraphqlRequests.Text.Split

/-!
# Names of characters

The names by which a literal can give a character: those of the letters of Latin, Greek and basic
Cyrillic, of punctuation, arrows, operators and pictures, and the names and abbreviations of control
characters.
-/

namespace GraphqlRequests.Text.Table

/-- Names that start with the same words, with a bar between what follows in each. -/
structure NameGroup where
  start : String
  ends : List String

namespace NameGroup

def names (group : NameGroup) : List String :=
  (group.ends.flatMap fun line => Text.splitChars '|' line.toList).map fun rest =>
    if group.start = "" then String.ofList rest else group.start ++ " " ++ String.ofList rest

end NameGroup

def characterNames : List NameGroup := [
  ⟨"", [
    "SPACE|EXCLAMATION MARK|QUOTATION MARK|NUMBER SIGN|DOLLAR SIGN|PERCENT SIGN|AMPERSAND",
    "APOSTROPHE|ASTERISK|PLUS SIGN|COMMA|HYPHEN-MINUS|SOLIDUS|COLON|SEMICOLON|EQUALS SIGN",
    "QUESTION MARK|COMMERCIAL AT|REVERSE SOLIDUS|CIRCUMFLEX ACCENT|LOW LINE|GRAVE ACCENT|TILDE",
    "NO-BREAK SPACE|CENT SIGN|POUND SIGN|CURRENCY SIGN|YEN SIGN|BROKEN BAR|SECTION SIGN",
    "DIAERESIS|COPYRIGHT SIGN|FEMININE ORDINAL INDICATOR",
    "LEFT-POINTING DOUBLE ANGLE QUOTATION MARK|SOFT HYPHEN|REGISTERED SIGN|MACRON|DEGREE SIGN",
    "PLUS-MINUS SIGN|SUPERSCRIPT TWO|SUPERSCRIPT THREE|ACUTE ACCENT|MICRO SIGN|PILCROW SIGN",
    "MIDDLE DOT|CEDILLA|SUPERSCRIPT ONE|MASCULINE ORDINAL INDICATOR",
    "RIGHT-POINTING DOUBLE ANGLE QUOTATION MARK|VULGAR FRACTION ONE QUARTER",
    "VULGAR FRACTION ONE HALF|VULGAR FRACTION THREE QUARTERS|MULTIPLICATION SIGN|DIVISION SIGN",
    "EN QUAD|EM QUAD|EN SPACE|EM SPACE|THREE-PER-EM SPACE|FOUR-PER-EM SPACE|SIX-PER-EM SPACE",
    "FIGURE SPACE|PUNCTUATION SPACE|THIN SPACE|HAIR SPACE|HYPHEN|NON-BREAKING HYPHEN",
    "FIGURE DASH|EN DASH|EM DASH|DAGGER|BULLET|TRIANGULAR BULLET|ONE DOT LEADER",
    "HYPHENATION POINT|PARAGRAPH SEPARATOR|POP DIRECTIONAL FORMATTING|NARROW NO-BREAK SPACE",
    "PER MILLE SIGN|PER TEN THOUSAND SIGN|PRIME|CARET|REFERENCE MARK|INTERROBANG|OVERLINE",
    "UNDERTIE|CARET INSERTION POINT|ASTERISM|HYPHEN BULLET|FRACTION SLASH",
    "QUESTION EXCLAMATION MARK|EXCLAMATION QUESTION MARK|TIRONIAN SIGN ET|LOW ASTERISK|CLOSE UP",
    "COMMERCIAL MINUS SIGN|SWUNG DASH|FLOWER PUNCTUATION MARK|QUADRUPLE PRIME",
    "FIVE DOT PUNCTUATION|DOTTED CROSS|TRICOLON|WORD JOINER|FUNCTION APPLICATION",
    "INVISIBLE TIMES|INVISIBLE SEPARATOR|INVISIBLE PLUS|POP DIRECTIONAL ISOLATE",
    "INHIBIT SYMMETRIC SWAPPING|ACTIVATE SYMMETRIC SWAPPING|INHIBIT ARABIC FORM SHAPING",
    "ACTIVATE ARABIC FORM SHAPING|NATIONAL DIGIT SHAPES|NOMINAL DIGIT SHAPES|EURO-CURRENCY SIGN",
    "COLON SIGN|CRUZEIRO SIGN|FRENCH FRANC SIGN|LIRA SIGN|MILL SIGN|NAIRA SIGN|PESETA SIGN",
    "RUPEE SIGN|WON SIGN|DONG SIGN|EURO SIGN|KIP SIGN|TUGRIK SIGN|DRACHMA SIGN",
    "GERMAN PENNY SIGN|PESO SIGN|GUARANI SIGN|AUSTRAL SIGN|HRYVNIA SIGN|CEDI SIGN",
    "LIVRE TOURNOIS SIGN|SPESMILO SIGN|TENGE SIGN|INDIAN RUPEE SIGN|TURKISH LIRA SIGN",
    "NORDIC MARK SIGN|MANAT SIGN|RUBLE SIGN|LARI SIGN|BITCOIN SIGN|SOM SIGN|ACCOUNT OF",
    "ADDRESSED TO THE SUBJECT|DEGREE CELSIUS|CENTRE LINE SYMBOL|CARE OF|CADA UNA|EULER CONSTANT",
    "SCRUPLE|DEGREE FAHRENHEIT|PLANCK CONSTANT|PLANCK CONSTANT OVER TWO PI|L B BAR SYMBOL",
    "NUMERO SIGN|SOUND RECORDING COPYRIGHT|PRESCRIPTION TAKE|RESPONSE|SERVICE MARK",
    "TRADE MARK SIGN|VERSICLE|OUNCE SIGN|OHM SIGN|KELVIN SIGN|ANGSTROM SIGN|ESTIMATED SYMBOL",
    "ALEF SYMBOL|BET SYMBOL|GIMEL SYMBOL|DALET SYMBOL|ROTATED CAPITAL Q|FACSIMILE SIGN",
    "PROPERTY LINE|PER SIGN|AKTIESELSKAB|SYMBOL FOR SAMARITAN SOURCE|FOR ALL|COMPLEMENT",
    "THERE EXISTS|THERE DOES NOT EXIST|INCREMENT|NABLA|MINUS SIGN|MINUS-OR-PLUS SIGN|DOT PLUS",
    "DIVISION SLASH|SET MINUS|ASTERISK OPERATOR|BULLET OPERATOR|CUBE ROOT|FOURTH ROOT",
    "PROPORTIONAL TO|INFINITY|ANGLE|MEASURED ANGLE|SPHERICAL ANGLE|DIVIDES|PARALLEL TO",
    "LOGICAL AND|LOGICAL OR|INTERSECTION|UNION|INTEGRAL|CONTOUR INTEGRAL|SURFACE INTEGRAL",
    "VOLUME INTEGRAL|THEREFORE|BECAUSE|RATIO|PROPORTION|DOT MINUS|EXCESS|GEOMETRIC PROPORTION",
    "HOMOTHETIC|TILDE OPERATOR|SINE WAVE|WREATH PRODUCT|MINUS TILDE|ASYMPTOTICALLY EQUAL TO",
    "APPROXIMATELY EQUAL TO|APPROXIMATELY BUT NOT ACTUALLY EQUAL TO|ALMOST EQUAL TO",
    "ALMOST EQUAL OR EQUAL TO|ALL EQUAL TO|EQUIVALENT TO|GEOMETRICALLY EQUIVALENT TO",
    "DIFFERENCE BETWEEN|APPROACHES THE LIMIT|GEOMETRICALLY EQUAL TO",
    "APPROXIMATELY EQUAL TO OR THE IMAGE OF|IMAGE OF OR APPROXIMATELY EQUAL TO|COLON EQUALS",
    "EQUALS COLON|CORRESPONDS TO|ESTIMATES|EQUIANGULAR TO|DELTA EQUAL TO|MEASURED BY",
    "QUESTIONED EQUAL TO|IDENTICAL TO|STRICTLY EQUIVALENT TO|MUCH LESS-THAN|MUCH GREATER-THAN",
    "BETWEEN|PRECEDES|SUCCEEDS|SUBSET OF|SUPERSET OF|SUBSET OF OR EQUAL TO",
    "SUPERSET OF OR EQUAL TO|SUBSET OF WITH NOT EQUAL TO|SUPERSET OF WITH NOT EQUAL TO|MULTISET",
    "MULTISET MULTIPLICATION|MULTISET UNION|DOWN TACK|ASSERTION|MODELS|TRUE|FORCES",
    "NEGATED DOUBLE VERTICAL BAR DOUBLE RIGHT TURNSTILE|NORMAL SUBGROUP OF",
    "NORMAL SUBGROUP OF OR EQUAL TO|ORIGINAL OF|IMAGE OF|MULTIMAP|HERMITIAN CONJUGATE MATRIX",
    "INTERCALATE|XOR|NAND|NOR|DIAMOND OPERATOR|DOT OPERATOR|DIVISION TIMES|BOWTIE",
    "CURLY LOGICAL OR|CURLY LOGICAL AND|PITCHFORK|VERY MUCH LESS-THAN|VERY MUCH GREATER-THAN",
    "MIDLINE HORIZONTAL ELLIPSIS|DOWN RIGHT DIAGONAL ELLIPSIS|Z NOTATION BAG MEMBERSHIP",
    "DARK SHADE|FISHEYE|LOZENGE|DOTTED CIRCLE|BULLSEYE|INVERSE BULLET|INVERSE WHITE CIRCLE",
    "CLOUD|UMBRELLA|SNOWMAN|COMET|LIGHTNING|THUNDERSTORM|SUN|ASCENDING NODE|DESCENDING NODE",
    "CONJUNCTION|OPPOSITION|SALTIRE|UMBRELLA WITH RAIN DROPS|SHAMROCK|SKULL AND CROSSBONES",
    "CAUTION SIGN|RADIOACTIVE SIGN|BIOHAZARD SIGN|CADUCEUS|ANKH|ORTHODOX CROSS|CHI RHO",
    "FARSI SYMBOL|ADI SHAKTI|HAMMER AND SICKLE|PEACE SYMBOL|YIN YANG|WHEEL OF DHARMA",
    "LAST QUARTER MOON|MERCURY|FEMALE SIGN|EARTH|JUPITER|SATURN|URANUS|NEPTUNE|PLUTO|ARIES",
    "TAURUS|GEMINI|CANCER|LEO|VIRGO|LIBRA|SCORPIUS|SAGITTARIUS|CAPRICORN|AQUARIUS|PISCES",
    "QUARTER NOTE|EIGHTH NOTE|MUSIC FLAT SIGN|MUSIC NATURAL SIGN|MUSIC SHARP SIGN",
    "WEST SYRIAC CROSS|EAST SYRIAC CROSS|UNIVERSAL RECYCLING SYMBOL|RECYCLED PAPER SYMBOL",
    "PARTIALLY-RECYCLED PAPER SYMBOL|PERMANENT PAPER SIGN|WHEELCHAIR SYMBOL|MONOGRAM FOR YANG",
    "MONOGRAM FOR YIN|HAMMER AND PICK|ANCHOR|CROSSED SWORDS|STAFF OF AESCULAPIUS|SCALES|ALEMBIC",
    "FLOWER|GEAR|STAFF OF HERMES|ATOM SYMBOL|FLEUR-DE-LIS|WARNING SIGN|HIGH VOLTAGE SIGN",
    "DOUBLED FEMALE SIGN|DOUBLED MALE SIGN|INTERLOCKED FEMALE AND MALE SIGN|MARRIAGE SYMBOL",
    "DIVORCE SYMBOL|UNMARRIED PARTNERSHIP SYMBOL|COFFIN|FUNERAL URN|NEUTER|CERES|PALLAS|JUNO",
    "VESTA|CHIRON|SEXTILE|SEMISEXTILE|QUINCUNX|SESQUIQUADRATE|SOCCER BALL|BASEBALL",
    "SNOWMAN WITHOUT SNOW|SUN BEHIND CLOUD|RAIN|THUNDER CLOUD AND RAIN|CROSSING LANES",
    "DISABLED CAR|OPHIUCHUS|PICK|CAR SLIDING|HELMET WITH WHITE CROSS|CHAINS",
    "ALTERNATE ONE-WAY LEFT WAY TRAFFIC|DRIVE SLOW SIGN",
    "FALLING DIAGONAL IN WHITE CIRCLE IN BLACK SQUARE|RESTRICTED LEFT ENTRY-1",
    "RESTRICTED LEFT ENTRY-2|ASTRONOMICAL SYMBOL FOR URANUS|PENTAGRAM",
    "RIGHT-HANDED INTERLACED PENTAGRAM|LEFT-HANDED INTERLACED PENTAGRAM|SHINTO SHRINE|CHURCH",
    "CASTLE|HISTORIC SITE|GEAR WITHOUT HUB|GEAR WITH HANDLES|MAP SYMBOL FOR LIGHTHOUSE|MOUNTAIN",
    "UMBRELLA ON GROUND|FOUNTAIN|FLAG IN HOLE|FERRY|SAILBOAT|SKIER|TENT",
    "HEADSTONE GRAVEYARD SYMBOL|FUEL PUMP|CUP ON BLACK SQUARE|TAPE DRIVE|AIRPLANE|ENVELOPE",
    "VICTORY HAND|WRITING HAND|PENCIL|CHECK MARK|MULTIPLICATION X|SHADOWED WHITE LATIN CROSS",
    "MALTESE CROSS|SPARKLES|STRESS OUTLINED WHITE STAR|PINWHEEL STAR|SHADOWED WHITE STAR",
    "SIX POINTED BLACK STAR|TWELVE POINTED BLACK STAR|SIXTEEN POINTED ASTERISK",
    "TEARDROP-SPOKED ASTERISK|SIX PETALLED BLACK AND WHITE FLORETTE|SNOWFLAKE",
    "TIGHT TRIFOLIATE SNOWFLAKE|SPARKLE|BALLOON-SPOKED ASTERISK|SHADOWED WHITE CIRCLE",
    "NEGATIVE SQUARED CROSS MARK|CURVED STEM PARAGRAPH SIGN ORNAMENT",
    "ROTATED HEAVY BLACK HEART BULLET|FLORAL HEART|ROTATED FLORAL HEART BULLET",
    "DRAFTING POINT RIGHTWARDS ARROW|TRIANGLE-HEADED RIGHTWARDS ARROW",
    "DASHED TRIANGLE-HEADED RIGHTWARDS ARROW|THREE-D TOP-LIGHTED RIGHTWARDS ARROWHEAD",
    "THREE-D BOTTOM-LIGHTED RIGHTWARDS ARROWHEAD|SQUAT BLACK RIGHTWARDS ARROW",
    "RIGHT-SHADED WHITE RIGHTWARDS ARROW|LEFT-SHADED WHITE RIGHTWARDS ARROW",
    "BACK-TILTED SHADOWED WHITE RIGHTWARDS ARROW|FRONT-TILTED SHADOWED WHITE RIGHTWARDS ARROW",
    "CURLY LOOP|WHITE-FEATHERED RIGHTWARDS ARROW|BLACK-FEATHERED SOUTH EAST ARROW",
    "BLACK-FEATHERED RIGHTWARDS ARROW|BLACK-FEATHERED NORTH EAST ARROW",
    "TEARDROP-BARBED RIGHTWARDS ARROW|WEDGE-TAILED RIGHTWARDS ARROW",
    "OPEN-OUTLINED RIGHTWARDS ARROW|CYCLONE|FOGGY|NIGHT WITH STARS|SUNRISE OVER MOUNTAINS",
    "SUNRISE|CITYSCAPE AT DUSK|SUNSET OVER BUILDINGS|RAINBOW|BRIDGE AT NIGHT|VOLCANO|MILKY WAY",
    "EARTH GLOBE EUROPE-AFRICA|EARTH GLOBE AMERICAS|EARTH GLOBE ASIA-AUSTRALIA",
    "GLOBE WITH MERIDIANS|WAXING CRESCENT MOON SYMBOL|WAXING GIBBOUS MOON SYMBOL",
    "WANING GIBBOUS MOON SYMBOL|LAST QUARTER MOON SYMBOL|WANING CRESCENT MOON SYMBOL",
    "CRESCENT MOON|LAST QUARTER MOON WITH FACE|SUN WITH FACE|GLOWING STAR|SHOOTING STAR",
    "THERMOMETER|FOG|WIND BLOWING FACE|TACO|BURRITO|CHESTNUT|SEEDLING|EVERGREEN TREE",
    "DECIDUOUS TREE|PALM TREE|CACTUS|TULIP|CHERRY BLOSSOM|ROSE|HIBISCUS|SUNFLOWER|BLOSSOM",
    "EAR OF MAIZE|EAR OF RICE|HERB|MAPLE LEAF|FALLEN LEAF|LEAF FLUTTERING IN WIND|MUSHROOM",
    "TOMATO|AUBERGINE|GRAPES|MELON|WATERMELON|TANGERINE|LEMON|BANANA|PINEAPPLE|RED APPLE|PEAR",
    "PEACH|CHERRIES|STRAWBERRY|HAMBURGER|SLICE OF PIZZA|MEAT ON BONE|POULTRY LEG|RICE CRACKER",
    "RICE BALL|COOKED RICE|CURRY AND RICE|STEAMING BOWL|SPAGHETTI|BREAD|FRENCH FRIES",
    "ROASTED SWEET POTATO|DANGO|ODEN|SUSHI|FRIED SHRIMP|FISH CAKE WITH SWIRL DESIGN",
    "SOFT ICE CREAM|SHAVED ICE|DOUGHNUT|COOKIE|CHOCOLATE BAR|CANDY|LOLLIPOP|CUSTARD|HONEY POT",
    "SHORTCAKE|BENTO BOX|POT OF FOOD|COOKING|FORK AND KNIFE|TEACUP WITHOUT HANDLE",
    "SAKE BOTTLE AND CUP|WINE GLASS|COCKTAIL GLASS|TROPICAL DRINK|BEER MUG|CLINKING BEER MUGS",
    "FORK AND KNIFE WITH PLATE|BOTTLE WITH POPPING CORK|POPCORN|RIBBON|WRAPPED PRESENT",
    "BIRTHDAY CAKE|JACK-O-LANTERN|CHRISTMAS TREE|FATHER CHRISTMAS|FIREWORKS|FIREWORK SPARKLER",
    "BALLOON|PARTY POPPER|CONFETTI BALL|TANABATA TREE|CROSSED FLAGS|PINE DECORATION",
    "CARP STREAMER|WIND CHIME|MOON VIEWING CEREMONY|SCHOOL SATCHEL|GRADUATION CAP",
    "BOUQUET OF FLOWERS|MILITARY MEDAL|REMINDER RIBBON|STUDIO MICROPHONE|LEVEL SLIDER",
    "CONTROL KNOBS|FILM FRAMES|ADMISSION TICKETS|CAROUSEL HORSE|FERRIS WHEEL|ROLLER COASTER",
    "FISHING POLE AND FISH|MICROPHONE|MOVIE CAMERA|CINEMA|HEADPHONE|ARTIST PALETTE|TOP HAT",
    "CIRCUS TENT|TICKET|CLAPPER BOARD|PERFORMING ARTS|VIDEO GAME|DIRECT HIT|SLOT MACHINE",
    "BILLIARDS|GAME DIE|BOWLING|FLOWER PLAYING CARDS|MULTIPLE MUSICAL NOTES|SAXOPHONE|GUITAR",
    "TRUMPET|VIOLIN|RUNNING SHIRT WITH SASH|TENNIS RACQUET AND BALL|SKI AND SKI BOOT",
    "BASKETBALL AND HOOP|CHEQUERED FLAG|SNOWBOARDER|RUNNER|SURFER|SPORTS MEDAL|TROPHY",
    "HORSE RACING|AMERICAN FOOTBALL|RUGBY FOOTBALL|SWIMMER|WEIGHT LIFTER|GOLFER",
    "RACING MOTORCYCLE|RACING CAR|CRICKET BAT AND BALL|VOLLEYBALL|FIELD HOCKEY STICK AND BALL",
    "TABLE TENNIS PADDLE AND BALL|SNOW CAPPED MOUNTAIN|CAMPING|BEACH WITH UMBRELLA",
    "BUILDING CONSTRUCTION|HOUSE BUILDINGS|CITYSCAPE|DERELICT HOUSE BUILDING|CLASSICAL BUILDING",
    "DESERT|DESERT ISLAND|NATIONAL PARK|STADIUM|HOUSE BUILDING|HOUSE WITH GARDEN",
    "OFFICE BUILDING|EUROPEAN POST OFFICE|HOSPITAL|BANK|AUTOMATED TELLER MACHINE|HOTEL",
    "LOVE HOTEL|CONVENIENCE STORE|SCHOOL|DEPARTMENT STORE|FACTORY|IZAKAYA LANTERN",
    "EUROPEAN CASTLE|WAVING WHITE FLAG|WAVING BLACK FLAG|ROSETTE|LABEL",
    "BADMINTON RACQUET AND SHUTTLECOCK|BOW AND ARROW|AMPHORA|RAT|MOUSE|OX|COW|TIGER|LEOPARD",
    "RABBIT|CAT|DRAGON|CROCODILE|WHALE|SNAIL|SNAKE|HORSE|RAM|GOAT|SHEEP|MONKEY|ROOSTER|CHICKEN",
    "DOG|PIG|BOAR|ELEPHANT|OCTOPUS|SPIRAL SHELL|BUG|ANT|HONEYBEE|LADY BEETLE|FISH|TROPICAL FISH",
    "BLOWFISH|TURTLE|HATCHING CHICK|FRONT-FACING BABY CHICK|BIRD|PENGUIN|KOALA|POODLE",
    "DROMEDARY CAMEL|BACTRIAN CAMEL|DOLPHIN|MOUSE FACE|COW FACE|TIGER FACE|RABBIT FACE|CAT FACE",
    "DRAGON FACE|SPOUTING WHALE|HORSE FACE|MONKEY FACE|DOG FACE|PIG FACE|FROG FACE|HAMSTER FACE",
    "WOLF FACE|BEAR FACE|PANDA FACE|PIG NOSE|PAW PRINTS|CHIPMUNK|EYES|EYE|EAR|NOSE|MOUTH|TONGUE",
    "FISTED HAND SIGN|WAVING HAND SIGN|OK HAND SIGN|THUMBS UP SIGN|THUMBS DOWN SIGN",
    "CLAPPING HANDS SIGN|CROWN|EYEGLASSES|NECKTIE|T-SHIRT|JEANS|DRESS|KIMONO|BIKINI|PURSE",
    "HANDBAG|POUCH|MANS SHOE|ATHLETIC SHOE|HIGH-HEELED SHOE|FOOTPRINTS|BUST IN SILHOUETTE",
    "BUSTS IN SILHOUETTE|BOY|GIRL|MAN|WOMAN|FAMILY|POLICE OFFICER|WOMAN WITH BUNNY EARS",
    "BRIDE WITH VEIL|OLDER MAN|OLDER WOMAN|BABY|CONSTRUCTION WORKER|PRINCESS|GHOST",
    "EXTRATERRESTRIAL ALIEN|ALIEN MONSTER|IMP|SKULL|GUARDSMAN|DANCER|LIPSTICK|NAIL POLISH",
    "HAIRCUT|BARBER POLE|SYRINGE|PILL|KISS MARK|LOVE LETTER|RING|GEM STONE|KISS|BOUQUET",
    "COUPLE WITH HEART|WEDDING|BEATING HEART|BROKEN HEART|SPARKLING HEART|GROWING HEART",
    "BLUE HEART|YELLOW HEART|PURPLE HEART|REVOLVING HEARTS|DIAMOND SHAPE WITH A DOT INSIDE",
    "ELECTRIC LIGHT BULB|ANGER SYMBOL|BOMB|SLEEPING SYMBOL|COLLISION SYMBOL",
    "SPLASHING SWEAT SYMBOL|DROPLET|DASH SYMBOL|PILE OF POO|FLEXED BICEPS|DIZZY SYMBOL",
    "SPEECH BALLOON|THOUGHT BALLOON|HUNDRED POINTS SYMBOL|MONEY BAG|CURRENCY EXCHANGE",
    "CREDIT CARD|MONEY WITH WINGS|CHART WITH UPWARDS TREND AND YEN SIGN|SEAT|PERSONAL COMPUTER",
    "BRIEFCASE|MINIDISC|FLOPPY DISK|OPTICAL DISC|DVD|FILE FOLDER|PAGE WITH CURL|PAGE FACING UP",
    "CALENDAR|TEAR-OFF CALENDAR|CARD INDEX|CHART WITH UPWARDS TREND|CHART WITH DOWNWARDS TREND",
    "BAR CHART|CLIPBOARD|PUSHPIN|ROUND PUSHPIN|PAPERCLIP|STRAIGHT RULER|TRIANGULAR RULER",
    "BOOKMARK TABS|LEDGER|NOTEBOOK|NOTEBOOK WITH DECORATIVE COVER|BLUE BOOK|ORANGE BOOK|BOOKS",
    "NAME BADGE|SCROLL|MEMO|PAGER|FAX MACHINE|SATELLITE ANTENNA|PUBLIC ADDRESS LOUDSPEAKER",
    "CHEERING MEGAPHONE|OUTBOX TRAY|INBOX TRAY|PACKAGE|E-MAIL SYMBOL|INCOMING ENVELOPE",
    "ENVELOPE WITH DOWNWARDS ARROW ABOVE|POSTBOX|POSTAL HORN|NEWSPAPER|MOBILE PHONE",
    "MOBILE PHONE WITH RIGHTWARDS ARROW AT LEFT|VIBRATION MODE|MOBILE PHONE OFF",
    "ANTENNA WITH BARS|CAMERA|CAMERA WITH FLASH|VIDEO CAMERA|TELEVISION|RADIO|VIDEOCASSETTE",
    "FILM PROJECTOR|PORTABLE STEREO|PRAYER BEADS|TWISTED RIGHTWARDS ARROWS",
    "LOW BRIGHTNESS SYMBOL|HIGH BRIGHTNESS SYMBOL|SPEAKER WITH CANCELLATION STROKE|SPEAKER",
    "SPEAKER WITH ONE SOUND WAVE|SPEAKER WITH THREE SOUND WAVES|BATTERY|ELECTRIC PLUG",
    "LEFT-POINTING MAGNIFYING GLASS|RIGHT-POINTING MAGNIFYING GLASS|LOCK WITH INK PEN|KEY|LOCK",
    "BELL|BELL WITH CANCELLATION STROKE|BOOKMARK|LINK SYMBOL|RADIO BUTTON",
    "BACK WITH LEFTWARDS ARROW ABOVE|ON WITH EXCLAMATION MARK WITH LEFT RIGHT ARROW ABOVE",
    "SOON WITH RIGHTWARDS ARROW ABOVE|TOP WITH UPWARDS ARROW ABOVE|KEYCAP TEN|FIRE",
    "ELECTRIC TORCH|WRENCH|HAMMER|NUT AND BOLT|HOCHO|PISTOL|MICROSCOPE|TELESCOPE|CRYSTAL BALL",
    "SIX POINTED STAR WITH MIDDLE DOT|TRIDENT EMBLEM|DOWN-POINTING RED TRIANGLE",
    "DOWN-POINTING SMALL RED TRIANGLE|SYMBOL FOR MARKS CHAPTER|CELTIC CROSS|OM SYMBOL",
    "DOVE OF PEACE|KAABA|MOSQUE|SYNAGOGUE|MENORAH WITH NINE BRANCHES|BOWL OF HYGIEIA|BULLHORN",
    "BULLHORN WITH SOUND WAVES|RINGING BELL|BOOK|CANDLE|MANTELPIECE CLOCK|HOLE|SLEUTH OR SPY",
    "DARK SUNGLASSES|SPIDER|SPIDER WEB|JOYSTICK|CLAMSHELL MOBILE PHONE|BACK OF ENVELOPE",
    "STAMPED ENVELOPE|ENVELOPE WITH LIGHTNING|FLYING ENVELOPE|PEN OVER STAMPED ENVELOPE",
    "LINKED PAPERCLIPS|DESKTOP COMPUTER|KEYBOARD AND MOUSE|PRINTER|POCKET CALCULATOR",
    "SOFT SHELL FLOPPY DISK|TAPE CARTRIDGE|WIRED KEYBOARD|ONE BUTTON MOUSE|TRACKBALL",
    "OLD PERSONAL COMPUTER|HARD DISK|SCREEN|PRINTER ICON|FAX ICON|OPTICAL DISC ICON",
    "DOCUMENT WITH TEXT|DOCUMENT WITH TEXT AND PICTURE|DOCUMENT WITH PICTURE|FRAME WITH PICTURE",
    "FRAME WITH TILES|FRAME WITH AN X|FOLDER|CARD INDEX DIVIDERS|CARD FILE BOX|FILE CABINET",
    "NOTE|NOTE PAGE|NOTE PAD|DOCUMENT|PAGE|PAGES|WASTEBASKET|SPIRAL NOTE PAD",
    "SPIRAL CALENDAR PAD|DESKTOP WINDOW|MINIMIZE|MAXIMIZE|OVERLAP|CANCELLATION X",
    "INCREASE FONT SIZE SYMBOL|DECREASE FONT SIZE SYMBOL|COMPRESSION|OLD KEY",
    "ROLLED-UP NEWSPAPER|PAGE WITH CIRCLED TEXT|STOCK CHART|DAGGER KNIFE|LIPS",
    "SPEAKING HEAD IN SILHOUETTE|MOOD BUBBLE|LIGHTNING MOOD BUBBLE|LIGHTNING MOOD|WORLD MAP",
    "MOUNT FUJI|TOKYO TOWER|STATUE OF LIBERTY|SILHOUETTE OF JAPAN|MOYAI|WINKING FACE",
    "RELIEVED FACE|SMIRKING FACE|NEUTRAL FACE|EXPRESSIONLESS FACE|UNAMUSED FACE|PENSIVE FACE",
    "CONFUSED FACE|CONFOUNDED FACE|DISAPPOINTED FACE|WORRIED FACE|ANGRY FACE|POUTING FACE",
    "CRYING FACE|PERSEVERING FACE|DISAPPOINTED BUT RELIEVED FACE|FROWNING FACE WITH OPEN MOUTH",
    "ANGUISHED FACE|FEARFUL FACE|WEARY FACE|SLEEPY FACE|TIRED FACE|GRIMACING FACE",
    "LOUDLY CRYING FACE|HUSHED FACE|ASTONISHED FACE|FLUSHED FACE|SLEEPING FACE|DIZZY FACE",
    "CAT FACE WITH TEARS OF JOY|CAT FACE WITH WRY SMILE|POUTING CAT FACE|CRYING CAT FACE",
    "WEARY CAT FACE|SLIGHTLY FROWNING FACE|SLIGHTLY SMILING FACE|UPSIDE-DOWN FACE",
    "SEE-NO-EVIL MONKEY|HEAR-NO-EVIL MONKEY|SPEAK-NO-EVIL MONKEY|HAPPY PERSON RAISING ONE HAND",
    "ROCKET|HELICOPTER|STEAM LOCOMOTIVE|RAILWAY CAR|HIGH-SPEED TRAIN",
    "HIGH-SPEED TRAIN WITH BULLET NOSE|TRAIN|METRO|STATION|TRAM|TRAM CAR|BUS|TROLLEYBUS",
    "BUS STOP|MINIBUS|AMBULANCE|FIRE ENGINE|POLICE CAR|TAXI|AUTOMOBILE|RECREATIONAL VEHICLE",
    "DELIVERY TRUCK|ARTICULATED LORRY|TRACTOR|MONORAIL|MOUNTAIN RAILWAY|SUSPENSION RAILWAY",
    "MOUNTAIN CABLEWAY|AERIAL TRAMWAY|SHIP|ROWBOAT|SPEEDBOAT|CONSTRUCTION SIGN",
    "POLICE CARS REVOLVING LIGHT|TRIANGULAR FLAG ON POST|DOOR|SMOKING SYMBOL",
    "PUT LITTER IN ITS PLACE SYMBOL|DO NOT LITTER SYMBOL|POTABLE WATER SYMBOL",
    "NON-POTABLE WATER SYMBOL|BICYCLE|BICYCLIST|MOUNTAIN BICYCLIST|PEDESTRIAN|CHILDREN CROSSING",
    "MENS SYMBOL|WOMENS SYMBOL|RESTROOM|TOILET|SHOWER|BATH|BATHTUB|PASSPORT CONTROL|CUSTOMS",
    "BAGGAGE CLAIM|TRIANGLE WITH ROUNDED CORNERS|PROHIBITED SIGN|BOYS SYMBOL|GIRLS SYMBOL",
    "COUCH AND LAMP|SLEEPING ACCOMMODATION|SHOPPING BAGS|BELLHOP BELL|BED|PLACE OF WORSHIP",
    "OCTAGONAL SIGN|SHOPPING TROLLEY|STUPA|PAGODA|HINDU TEMPLE|HUT|ELEVATOR|PLAYGROUND SLIDE",
    "WHEEL|HAMMER AND WRENCH|SHIELD|OIL DRUM|MOTORWAY|RAILWAY TRACK|MOTOR BOAT",
    "NORTHEAST-POINTING AIRPLANE|AIRPLANE DEPARTURE|AIRPLANE ARRIVING|SATELLITE",
    "DIESEL LOCOMOTIVE|PASSENGER SHIP|SCOOTER|MOTOR SCOOTER|CANOE|SLED|FLYING SAUCER|SKATEBOARD",
    "AUTO RICKSHAW|PICKUP TRUCK|ROLLER SKATE|PINCHED FINGERS|BROWN HEART|PINCHING HAND",
    "ZIPPER-MOUTH FACE|MONEY-MOUTH FACE|NERD FACE|THINKING FACE|ROBOT FACE|HUGGING FACE",
    "SIGN OF THE HORNS|CALL ME HAND|LEFT-FACING FIST|RIGHT-FACING FIST|HANDSHAKE",
    "HAND WITH INDEX AND MIDDLE FINGERS CROSSED|I LOVE YOU HAND SIGN|CLOWN FACE|NAUSEATED FACE",
    "ROLLING ON THE FLOOR LAUGHING|DROOLING FACE|LYING FACE|SNEEZING FACE",
    "SERIOUS FACE WITH SYMBOLS COVERING MOUTH|SHOCKED FACE WITH EXPLODING HEAD|PREGNANT WOMAN",
    "BREAST-FEEDING|PALMS UP TOGETHER|SELFIE|PRINCE|MOTHER CHRISTMAS|SHRUG|JUGGLING|FENCER",
    "MODERN PENTATHLON|WRESTLERS|HANDBALL|DIVING MASK|WILTED FLOWER|DRUM WITH DRUMSTICKS",
    "CLINKING GLASSES|TUMBLER GLASS|SPOON|GOAL NET|RIFLE|SECOND PLACE MEDAL|THIRD PLACE MEDAL",
    "BOXING GLOVE|MARTIAL ARTS UNIFORM|CURLING STONE|LACROSSE STICK AND BALL|SOFTBALL",
    "FLYING DISC|CROISSANT|AVOCADO|CUCUMBER|BACON|POTATO|CARROT|BAGUETTE BREAD",
    "SHALLOW PAN OF FOOD|STUFFED FLATBREAD|EGG|GLASS OF MILK|PEANUTS|KIWIFRUIT|PANCAKES",
    "DUMPLING|FORTUNE COOKIE|TAKEOUT BOX|CHOPSTICKS|BOWL WITH SPOON|CUP WITH STRAW|COCONUT",
    "BROCCOLI|PIE|PRETZEL|CUT OF MEAT|SANDWICH|CANNED FOOD|LEAFY GREEN|MANGO|MOON CAKE|BAGEL",
    "YAWNING FACE|OVERHEATED FACE|FREEZING FACE|NINJA|DISGUISED FACE|SARI|LAB COAT|GOGGLES",
    "HIKING BOOT|FLAT SHOE|CRAB|LION FACE|SCORPION|TURKEY|UNICORN FACE|EAGLE|DUCK|BAT|SHARK|OWL",
    "FOX FACE|BUTTERFLY|DEER|GORILLA|LIZARD|RHINOCEROS|SHRIMP|SQUID|GIRAFFE FACE|ZEBRA FACE",
    "HEDGEHOG|SAUROPOD|T-REX|CRICKET|KANGAROO|LLAMA|PEACOCK|HIPPOPOTAMUS|PARROT|RACCOON|LOBSTER",
    "MOSQUITO|MICROBE|BADGER|SWAN|MAMMOTH|DODO|SLOTH|OTTER|ORANGUTAN|SKUNK|FLAMINGO|OYSTER",
    "BEAVER|BISON|SEAL|GUIDE DOG|PROBING CANE|BONE|LEG|FOOT|TOOTH|SUPERHERO|SUPERVILLAIN",
    "SAFETY VEST|EAR WITH HEARING AID|MOTORIZED WHEELCHAIR|MANUAL WHEELCHAIR|MECHANICAL ARM",
    "MECHANICAL LEG|CHEESE WEDGE|CUPCAKE|SALT SHAKER|BEVERAGE BOX|GARLIC|ONION|FALAFEL|WAFFLE",
    "BUTTER|MATE DRINK|BUBBLE TEA|TROLL|STANDING PERSON|KNEELING PERSON|DEAF PERSON|ADULT|CHILD",
    "OLDER ADULT|BEARDED PERSON|MAGE|FAIRY|VAMPIRE|MERPERSON|ELF|GENIE|ZOMBIE|BRAIN",
    "ORANGE HEART|BILLED CAP|SCARF|GLOVES|COAT|SOCKS|RED GIFT ENVELOPE|FIRECRACKER",
    "JIGSAW PUZZLE PIECE|TEST TUBE|PETRI DISH|DNA DOUBLE HELIX|COMPASS|ABACUS|FIRE EXTINGUISHER",
    "TOOLBOX|BRICK|MAGNET|LUGGAGE|LOTION BOTTLE|SPOOL OF THREAD|BALL OF YARN|SAFETY PIN",
    "TEDDY BEAR|BROOM|BASKET|ROLL OF PAPER|BAR OF SOAP|SPONGE|RECEIPT|NAZAR AMULET|NULL|NUL|SOH",
    "STX|ETX|EOT|ENQUIRY|ENQ|ACKNOWLEDGE|ACK|ALERT|BEL|BACKSPACE|BS|HT|TAB|LF|NL|EOL|VT",
    "FORM FEED|FF|CARRIAGE RETURN|CR|SHIFT OUT|LOCKING-SHIFT ONE|SO|SHIFT IN|LOCKING-SHIFT ZERO",
    "SI|DATA LINK ESCAPE|DLE|DC1|DC2|DC3|DC4|NEGATIVE ACKNOWLEDGE|NAK|SYNCHRONOUS IDLE|SYN|ETB",
    "CANCEL|CAN|EOM|SUBSTITUTE|SUB|ESCAPE|ESC|FILE SEPARATOR|FS|GROUP SEPARATOR|GS",
    "RECORD SEPARATOR|RS|UNIT SEPARATOR|US|SP|DELETE|DEL|PADDING CHARACTER|PAD",
    "HIGH OCTET PRESET|HOP|BREAK PERMITTED HERE|BPH|NBH|INDEX|IND|NEXT LINE|NEL|SSA|ESA|HTS|HTJ",
    "VTS|PLD|PLU|REVERSE LINE FEED|REVERSE INDEX|RI|SINGLE-SHIFT-2|SS2|SINGLE-SHIFT-3|SS3|DCS",
    "PU1|PU2|SET TRANSMIT STATE|STS|CANCEL CHARACTER|CCH|MESSAGE WAITING|MW|SPA|EPA|SOS|SGC|SCI",
    "CONTROL SEQUENCE INTRODUCER|CSI|STRING TERMINATOR|ST|OPERATING SYSTEM COMMAND|OSC",
    "PRIVACY MESSAGE|PM|APPLICATION PROGRAM COMMAND|APC|NBSP|SHY|CGJ|ZWSP|ZWNJ|ZWJ|LRM|RLM|LRE",
    "RLE|PDF|LRO|RLO|NNBSP|MMSP|WJ|LRI|RLI|FSI|PDI|ALM|BYTE ORDER MARK|BOM|ZWNBSP",
    "REPLACEMENT CHARACTER|WEIERSTRASS ELLIPTIC FUNCTION|LATIN CAPITAL LIGATURE IJ",
    "LATIN CAPITAL LIGATURE OE|LATIN SMALL LIGATURE IJ|LATIN SMALL LIGATURE OE",
    "INFORMATION SOURCE|INFORMATION DESK PERSON|NORTH EAST ARROW|NORTH EAST DOUBLE ARROW",
    "PARTIAL DIFFERENTIAL|ELEMENT OF|EQUAL TO BY DEFINITION|UP TACK|UP RIGHT DIAGONAL ELLIPSIS",
    "EQUAL AND PARALLEL TO|QUADRANT LOWER LEFT|QUADRANT LOWER RIGHT",
    "DINGBAT CIRCLED SANS-SERIF NUMBER TEN|END WITH LEFTWARDS ARROW ABOVE",
    "SMILING CAT FACE WITH OPEN MOUTH|SMILING CAT FACE WITH HEART-SHAPED EYES"]⟩,
  ⟨"ANTICLOCKWISE", [
    "TOP SEMICIRCLE ARROW|OPEN CIRCLE ARROW|CONTOUR INTEGRAL",
    "DOWNWARDS AND UPWARDS OPEN CIRCLE ARROWS"]⟩,
  ⟨"BABY", [
    "BOTTLE|CHICK|ANGEL|SYMBOL"]⟩,
  ⟨"BALLOT", [
    "BOX|X|SCRIPT X|BOLD SCRIPT X"]⟩,
  ⟨"BALLOT BOX WITH", [
    "CHECK|X|BALLOT|SCRIPT X|BOLD SCRIPT X|BOLD CHECK"]⟩,
  ⟨"BANKNOTE WITH", [
    "YEN SIGN|DOLLAR SIGN|EURO SIGN|POUND SIGN"]⟩,
  ⟨"BEAMED", [
    "EIGHTH NOTES|SIXTEENTH NOTES|ASCENDING MUSICAL NOTES|DESCENDING MUSICAL NOTES"]⟩,
  ⟨"BLACK", [
    "LEFTWARDS BULLET|RIGHTWARDS BULLET|SQUARE|SMALL SQUARE|RECTANGLE|VERTICAL RECTANGLE",
    "PARALLELOGRAM|UP-POINTING TRIANGLE|UP-POINTING SMALL TRIANGLE|RIGHT-POINTING TRIANGLE",
    "RIGHT-POINTING SMALL TRIANGLE|RIGHT-POINTING POINTER|DOWN-POINTING TRIANGLE",
    "DOWN-POINTING SMALL TRIANGLE|LEFT-POINTING TRIANGLE|LEFT-POINTING SMALL TRIANGLE",
    "LEFT-POINTING POINTER|DIAMOND|CIRCLE|LOWER RIGHT TRIANGLE|LOWER LEFT TRIANGLE",
    "UPPER LEFT TRIANGLE|UPPER RIGHT TRIANGLE|MEDIUM SQUARE|MEDIUM SMALL SQUARE|SUN WITH RAYS",
    "STAR|TELEPHONE|SHOGI PIECE|LEFT POINTING INDEX|RIGHT POINTING INDEX|SMILING FACE",
    "CHESS KING|CHESS QUEEN|CHESS ROOK|CHESS BISHOP|CHESS KNIGHT|CHESS PAWN|SPADE SUIT",
    "CLUB SUIT|HEART SUIT|DIAMOND SUIT|UNIVERSAL RECYCLING SYMBOL|CIRCLE WITH WHITE DOT RIGHT",
    "CIRCLE WITH TWO WHITE DOTS|FLAG|MOON LILITH|DRAUGHTS MAN|DRAUGHTS KING|SNOWMAN",
    "TWO-WAY LEFT WAY TRAFFIC|LEFT LANE MERGE|TRUCK|CROSS ON SHIELD|SAFETY SCISSORS|SCISSORS",
    "NIB|FOUR POINTED STAR|CENTRE WHITE STAR|FLORETTE|QUESTION MARK ORNAMENT",
    "DIAMOND MINUS WHITE X|RIGHTWARDS ARROW|RIGHTWARDS ARROWHEAD|DROPLET|PENNANT|ROSETTE",
    "SQUARE BUTTON|SKULL AND CROSSBONES|TOUCHTONE TELEPHONE|PUSHPIN",
    "LEFT POINTING BACKHAND INDEX|RIGHT POINTING BACKHAND INDEX|UP POINTING BACKHAND INDEX",
    "DOWN POINTING BACKHAND INDEX|HEART|HARD SHELL FLOPPY DISK|FOLDER"]⟩,
  ⟨"BLACK-LETTER CAPITAL", [
    "H|I|R|Z|C"]⟩,
  ⟨"BOX DRAWINGS", [
    "LIGHT HORIZONTAL|HEAVY HORIZONTAL|LIGHT VERTICAL|HEAVY VERTICAL",
    "LIGHT TRIPLE DASH HORIZONTAL|HEAVY TRIPLE DASH HORIZONTAL|LIGHT TRIPLE DASH VERTICAL",
    "HEAVY TRIPLE DASH VERTICAL|LIGHT QUADRUPLE DASH HORIZONTAL|HEAVY QUADRUPLE DASH HORIZONTAL",
    "LIGHT QUADRUPLE DASH VERTICAL|HEAVY QUADRUPLE DASH VERTICAL|LIGHT DOWN AND RIGHT",
    "DOWN LIGHT AND RIGHT HEAVY|DOWN HEAVY AND RIGHT LIGHT|HEAVY DOWN AND RIGHT",
    "LIGHT DOWN AND LEFT|DOWN LIGHT AND LEFT HEAVY|DOWN HEAVY AND LEFT LIGHT",
    "HEAVY DOWN AND LEFT|LIGHT UP AND RIGHT|UP LIGHT AND RIGHT HEAVY|UP HEAVY AND RIGHT LIGHT",
    "HEAVY UP AND RIGHT|LIGHT UP AND LEFT|UP LIGHT AND LEFT HEAVY|UP HEAVY AND LEFT LIGHT",
    "HEAVY UP AND LEFT|LIGHT VERTICAL AND RIGHT|VERTICAL LIGHT AND RIGHT HEAVY",
    "UP HEAVY AND RIGHT DOWN LIGHT|DOWN HEAVY AND RIGHT UP LIGHT|VERTICAL HEAVY AND RIGHT LIGHT",
    "DOWN LIGHT AND RIGHT UP HEAVY|UP LIGHT AND RIGHT DOWN HEAVY|HEAVY VERTICAL AND RIGHT",
    "LIGHT VERTICAL AND LEFT|VERTICAL LIGHT AND LEFT HEAVY|UP HEAVY AND LEFT DOWN LIGHT",
    "DOWN HEAVY AND LEFT UP LIGHT|VERTICAL HEAVY AND LEFT LIGHT|DOWN LIGHT AND LEFT UP HEAVY",
    "UP LIGHT AND LEFT DOWN HEAVY|HEAVY VERTICAL AND LEFT|LIGHT DOWN AND HORIZONTAL",
    "LEFT HEAVY AND RIGHT DOWN LIGHT|RIGHT HEAVY AND LEFT DOWN LIGHT",
    "DOWN LIGHT AND HORIZONTAL HEAVY|DOWN HEAVY AND HORIZONTAL LIGHT",
    "RIGHT LIGHT AND LEFT DOWN HEAVY|LEFT LIGHT AND RIGHT DOWN HEAVY|HEAVY DOWN AND HORIZONTAL",
    "LIGHT UP AND HORIZONTAL|LEFT HEAVY AND RIGHT UP LIGHT|RIGHT HEAVY AND LEFT UP LIGHT",
    "UP LIGHT AND HORIZONTAL HEAVY|UP HEAVY AND HORIZONTAL LIGHT|RIGHT LIGHT AND LEFT UP HEAVY",
    "LEFT LIGHT AND RIGHT UP HEAVY|HEAVY UP AND HORIZONTAL|LIGHT VERTICAL AND HORIZONTAL",
    "LEFT HEAVY AND RIGHT VERTICAL LIGHT|RIGHT HEAVY AND LEFT VERTICAL LIGHT",
    "VERTICAL LIGHT AND HORIZONTAL HEAVY|UP HEAVY AND DOWN HORIZONTAL LIGHT",
    "DOWN HEAVY AND UP HORIZONTAL LIGHT|VERTICAL HEAVY AND HORIZONTAL LIGHT",
    "LEFT UP HEAVY AND RIGHT DOWN LIGHT|RIGHT UP HEAVY AND LEFT DOWN LIGHT",
    "LEFT DOWN HEAVY AND RIGHT UP LIGHT|RIGHT DOWN HEAVY AND LEFT UP LIGHT",
    "DOWN LIGHT AND UP HORIZONTAL HEAVY|UP LIGHT AND DOWN HORIZONTAL HEAVY",
    "RIGHT LIGHT AND LEFT VERTICAL HEAVY|LEFT LIGHT AND RIGHT VERTICAL HEAVY",
    "HEAVY VERTICAL AND HORIZONTAL|LIGHT DOUBLE DASH HORIZONTAL|HEAVY DOUBLE DASH HORIZONTAL",
    "LIGHT DOUBLE DASH VERTICAL|HEAVY DOUBLE DASH VERTICAL|DOUBLE HORIZONTAL|DOUBLE VERTICAL",
    "DOWN SINGLE AND RIGHT DOUBLE|DOWN DOUBLE AND RIGHT SINGLE|DOUBLE DOWN AND RIGHT",
    "DOWN SINGLE AND LEFT DOUBLE|DOWN DOUBLE AND LEFT SINGLE|DOUBLE DOWN AND LEFT",
    "UP SINGLE AND RIGHT DOUBLE|UP DOUBLE AND RIGHT SINGLE|DOUBLE UP AND RIGHT",
    "UP SINGLE AND LEFT DOUBLE|UP DOUBLE AND LEFT SINGLE|DOUBLE UP AND LEFT",
    "VERTICAL SINGLE AND RIGHT DOUBLE|VERTICAL DOUBLE AND RIGHT SINGLE",
    "DOUBLE VERTICAL AND RIGHT|VERTICAL SINGLE AND LEFT DOUBLE|VERTICAL DOUBLE AND LEFT SINGLE",
    "DOUBLE VERTICAL AND LEFT|DOWN SINGLE AND HORIZONTAL DOUBLE",
    "DOWN DOUBLE AND HORIZONTAL SINGLE|DOUBLE DOWN AND HORIZONTAL",
    "UP SINGLE AND HORIZONTAL DOUBLE|UP DOUBLE AND HORIZONTAL SINGLE|DOUBLE UP AND HORIZONTAL",
    "VERTICAL SINGLE AND HORIZONTAL DOUBLE|VERTICAL DOUBLE AND HORIZONTAL SINGLE",
    "DOUBLE VERTICAL AND HORIZONTAL|LIGHT ARC DOWN AND RIGHT|LIGHT ARC DOWN AND LEFT",
    "LIGHT ARC UP AND LEFT|LIGHT ARC UP AND RIGHT|LIGHT DIAGONAL UPPER RIGHT TO LOWER LEFT",
    "LIGHT DIAGONAL UPPER LEFT TO LOWER RIGHT|LIGHT DIAGONAL CROSS|LIGHT LEFT|LIGHT UP",
    "LIGHT RIGHT|LIGHT DOWN|HEAVY LEFT|HEAVY UP|HEAVY RIGHT|HEAVY DOWN",
    "LIGHT LEFT AND HEAVY RIGHT|LIGHT UP AND HEAVY DOWN|HEAVY LEFT AND LIGHT RIGHT",
    "HEAVY UP AND LIGHT DOWN"]⟩,
  ⟨"CHARACTER", [
    "TIE|TABULATION|TABULATION SET|TABULATION WITH JUSTIFICATION"]⟩,
  ⟨"CIRCLE WITH", [
    "VERTICAL FILL|LEFT HALF BLACK|RIGHT HALF BLACK|LOWER HALF BLACK|UPPER HALF BLACK",
    "UPPER RIGHT QUADRANT BLACK|ALL BUT UPPER LEFT QUADRANT BLACK"]⟩,
  ⟨"CIRCLED", [
    "PLUS|MINUS|TIMES|DIVISION SLASH|DOT OPERATOR|RING OPERATOR|ASTERISK OPERATOR|EQUALS|DASH",
    "CROSSING LANES|WHITE STAR|OPEN CENTRE EIGHT POINTED STAR|HEAVY WHITE RIGHTWARDS ARROW",
    "CROSS POMMEE|INFORMATION SOURCE|CROSS FORMEE WITH FOUR DOTS|CROSS FORMEE WITH TWO DOTS",
    "CROSS FORMEE"]⟩,
  ⟨"CLOCK FACE", [
    "ONE OCLOCK|TWO OCLOCK|THREE OCLOCK|FOUR OCLOCK|FIVE OCLOCK|SIX OCLOCK|SEVEN OCLOCK",
    "EIGHT OCLOCK|NINE OCLOCK|TEN OCLOCK|ELEVEN OCLOCK|TWELVE OCLOCK|ONE-THIRTY|TWO-THIRTY",
    "THREE-THIRTY|FOUR-THIRTY|FIVE-THIRTY|SIX-THIRTY|SEVEN-THIRTY|EIGHT-THIRTY|NINE-THIRTY",
    "TEN-THIRTY|ELEVEN-THIRTY|TWELVE-THIRTY"]⟩,
  ⟨"CLOCKWISE", [
    "TOP SEMICIRCLE ARROW|OPEN CIRCLE ARROW|INTEGRAL|CONTOUR INTEGRAL",
    "RIGHTWARDS AND LEFTWARDS OPEN CIRCLE ARROWS",
    "RIGHTWARDS AND LEFTWARDS OPEN CIRCLE ARROWS WITH CIRCLED ONE OVERLAY",
    "DOWNWARDS AND UPWARDS OPEN CIRCLE ARROWS|RIGHT AND LEFT SEMICIRCLE ARROWS"]⟩,
  ⟨"CLOSED", [
    "UMBRELLA|BOOK|MAILBOX WITH LOWERED FLAG|MAILBOX WITH RAISED FLAG|LOCK WITH KEY"]⟩,
  ⟨"CLOUD WITH", [
    "RAIN|SNOW|LIGHTNING|TORNADO"]⟩,
  ⟨"CONTAINS", [
    "AS MEMBER|AS NORMAL SUBGROUP|AS NORMAL SUBGROUP OR EQUAL TO|WITH LONG HORIZONTAL STROKE",
    "WITH VERTICAL BAR AT END OF HORIZONTAL STROKE|WITH OVERBAR"]⟩,
  ⟨"COPTIC CAPITAL LETTER", [
    "SHEI|FEI|KHEI|HORI|GANGIA|SHIMA|DEI"]⟩,
  ⟨"COPTIC SMALL LETTER", [
    "SHEI|FEI|KHEI|HORI|GANGIA|SHIMA|DEI"]⟩,
  ⟨"CROSS", [
    "OF LORRAINE|OF JERUSALEM|MARK|POMMEE WITH HALF-CIRCLE BELOW|POMMEE"]⟩,
  ⟨"CYRILLIC CAPITAL LETTER", [
    "IE WITH GRAVE|IO|DJE|GJE|UKRAINIAN IE|DZE|BYELORUSSIAN-UKRAINIAN I|YI|JE|LJE|NJE|TSHE|KJE",
    "I WITH GRAVE|SHORT U|DZHE|A|BE|VE|GHE|DE|IE|ZHE|ZE|I|SHORT I|KA|EL|EM|EN|O|PE|ER|ES|TE|U",
    "EF|HA|TSE|CHE|SHA|SHCHA|HARD SIGN|YERU|SOFT SIGN|E|YU|YA"]⟩,
  ⟨"CYRILLIC SMALL LETTER", [
    "A|BE|VE|GHE|DE|IE|ZHE|ZE|I|SHORT I|KA|EL|EM|EN|O|PE|ER|ES|TE|U|EF|HA|TSE|CHE|SHA|SHCHA",
    "HARD SIGN|YERU|SOFT SIGN|E|YU|YA|IE WITH GRAVE|IO|DJE|GJE|UKRAINIAN IE|DZE",
    "BYELORUSSIAN-UKRAINIAN I|YI|JE|LJE|NJE|TSHE|KJE|I WITH GRAVE|SHORT U|DZHE"]⟩,
  ⟨"DEVICE CONTROL", [
    "ONE|TWO|THREE|FOUR|STRING"]⟩,
  ⟨"DIE", [
    "FACE-1|FACE-2|FACE-3|FACE-4|FACE-5|FACE-6"]⟩,
  ⟨"DIGIT", [
    "ZERO|ONE|TWO|THREE|FOUR|FIVE|SIX|SEVEN|EIGHT|NINE"]⟩,
  ⟨"DIGRAM FOR", [
    "GREATER YANG|LESSER YIN|LESSER YANG|GREATER YIN"]⟩,
  ⟨"DINGBAT CIRCLED SANS-SERIF DIGIT", [
    "ONE|TWO|THREE|FOUR|FIVE|SIX|SEVEN|EIGHT|NINE"]⟩,
  ⟨"DINGBAT NEGATIVE CIRCLED", [
    "DIGIT ONE|DIGIT TWO|DIGIT THREE|DIGIT FOUR|DIGIT FIVE|DIGIT SIX|DIGIT SEVEN|DIGIT EIGHT",
    "DIGIT NINE|NUMBER TEN|SANS-SERIF DIGIT ONE|SANS-SERIF DIGIT TWO|SANS-SERIF DIGIT THREE",
    "SANS-SERIF DIGIT FOUR|SANS-SERIF DIGIT FIVE|SANS-SERIF DIGIT SIX|SANS-SERIF DIGIT SEVEN",
    "SANS-SERIF DIGIT EIGHT|SANS-SERIF DIGIT NINE|SANS-SERIF NUMBER TEN"]⟩,
  ⟨"DOES NOT", [
    "CONTAIN AS MEMBER|DIVIDE|PRECEDE|SUCCEED|PROVE|FORCE|PRECEDE OR EQUAL|SUCCEED OR EQUAL",
    "CONTAIN AS NORMAL SUBGROUP|CONTAIN AS NORMAL SUBGROUP OR EQUAL"]⟩,
  ⟨"DOUBLE", [
    "VERTICAL LINE|LOW LINE|LOW-9 QUOTATION MARK|HIGH-REVERSED-9 QUOTATION MARK|DAGGER|PRIME",
    "EXCLAMATION MARK|QUESTION MARK|INTEGRAL|VERTICAL BAR DOUBLE RIGHT TURNSTILE|SUBSET",
    "SUPERSET|INTERSECTION|UNION|CURLY LOOP"]⟩,
  ⟨"DOUBLE-STRUCK", [
    "CAPITAL C|CAPITAL H|CAPITAL N|CAPITAL P|CAPITAL Q|CAPITAL R|CAPITAL Z|SMALL PI|SMALL GAMMA",
    "CAPITAL GAMMA|CAPITAL PI|N-ARY SUMMATION|ITALIC CAPITAL D|ITALIC SMALL D|ITALIC SMALL E",
    "ITALIC SMALL I|ITALIC SMALL J"]⟩,
  ⟨"DOWNWARD FACING", [
    "HOOK|NOTCHED HOOK|HOOK WITH DOT|NOTCHED HOOK WITH DOT"]⟩,
  ⟨"DOWNWARDS", [
    "ARROW|TWO HEADED ARROW|ARROW FROM BAR|ZIGZAG ARROW|ARROW WITH TIP LEFTWARDS",
    "ARROW WITH TIP RIGHTWARDS|ARROW WITH CORNER LEFTWARDS|HARPOON WITH BARB RIGHTWARDS",
    "HARPOON WITH BARB LEFTWARDS|PAIRED ARROWS|DOUBLE ARROW|ARROW WITH DOUBLE STROKE",
    "DASHED ARROW|WHITE ARROW|ARROW LEFTWARDS OF UPWARDS ARROW"]⟩,
  ⟨"EIGHT", [
    "SPOKED ASTERISK|POINTED BLACK STAR|POINTED PINWHEEL STAR|POINTED RECTILINEAR BLACK STAR",
    "PETALLED OUTLINED BLACK FLORETTE|TEARDROP-SPOKED PROPELLER ASTERISK"]⟩,
  ⟨"ELEMENT OF WITH", [
    "LONG HORIZONTAL STROKE|VERTICAL BAR AT END OF HORIZONTAL STROKE|DOT ABOVE|OVERBAR|UNDERBAR",
    "TWO HORIZONTAL STROKES"]⟩,
  ⟨"EMOJI COMPONENT", [
    "RED HAIR|CURLY HAIR|BALD|WHITE HAIR"]⟩,
  ⟨"EMOJI MODIFIER FITZPATRICK", [
    "TYPE-1-2|TYPE-3|TYPE-4|TYPE-5|TYPE-6"]⟩,
  ⟨"EMPTY", [
    "SET|NOTE|NOTE PAGE|NOTE PAD|DOCUMENT|PAGE|PAGES"]⟩,
  ⟨"END OF", [
    "PROOF|TEXT|TRANSMISSION|LINE|TRANSMISSION BLOCK|MEDIUM|SELECTED AREA|GUARDED AREA",
    "PROTECTED AREA"]⟩,
  ⟨"EQUAL TO OR", [
    "LESS-THAN|GREATER-THAN|PRECEDES|SUCCEEDS"]⟩,
  ⟨"FACE", [
    "MASSAGE|SAVOURING DELICIOUS FOOD|THROWING A KISS|SCREAMING IN FEAR|WITHOUT MOUTH|PALM",
    "HOLDING BACK TEARS"]⟩,
  ⟨"FACE WITH", [
    "TEARS OF JOY|COLD SWEAT|STUCK-OUT TONGUE|STUCK-OUT TONGUE AND WINKING EYE",
    "STUCK-OUT TONGUE AND TIGHTLY-CLOSED EYES|LOOK OF TRIUMPH|OPEN MOUTH",
    "OPEN MOUTH AND COLD SWEAT|MEDICAL MASK|ROLLING EYES|NO GOOD GESTURE|OK GESTURE|THERMOMETER",
    "HEAD-BANDAGE|COWBOY HAT|ONE EYEBROW RAISED|FINGER COVERING CLOSED LIPS|OPEN MOUTH VOMITING",
    "PARTY HORN AND PARTY HAT|UNEVEN EYES AND WAVY MOUTH|PLEADING EYES|MONOCLE"]⟩,
  ⟨"FIRST", [
    "STRONG ISOLATE|QUARTER MOON|QUARTER MOON SYMBOL|QUARTER MOON WITH FACE|PLACE MEDAL"]⟩,
  ⟨"FOUR", [
    "DOT PUNCTUATION|DOT MARK|TEARDROP-SPOKED ASTERISK|BALLOON-SPOKED ASTERISK",
    "CLUB-SPOKED ASTERISK|LEAF CLOVER"]⟩,
  ⟨"FULL", [
    "STOP|BLOCK|MOON SYMBOL|MOON WITH FACE"]⟩,
  ⟨"GREATER-THAN", [
    "SIGN|OR EQUAL TO|OVER EQUAL TO|BUT NOT EQUAL TO|OR EQUIVALENT TO|OR LESS-THAN|WITH DOT",
    "EQUAL TO OR LESS-THAN|BUT NOT EQUIVALENT TO"]⟩,
  ⟨"GREEK", [
    "NUMERAL SIGN|LOWER NUMERAL SIGN|YPOGEGRAMMENI|SMALL REVERSED LUNATE SIGMA SYMBOL",
    "SMALL DOTTED LUNATE SIGMA SYMBOL|SMALL REVERSED DOTTED LUNATE SIGMA SYMBOL|QUESTION MARK",
    "TONOS|DIALYTIKA TONOS|ANO TELEIA|CAPITAL KAI SYMBOL|BETA SYMBOL|THETA SYMBOL",
    "UPSILON WITH HOOK SYMBOL|UPSILON WITH ACUTE AND HOOK SYMBOL",
    "UPSILON WITH DIAERESIS AND HOOK SYMBOL|PHI SYMBOL|PI SYMBOL|KAI SYMBOL",
    "LETTER ARCHAIC KOPPA|LETTER STIGMA|LETTER DIGAMMA|LETTER KOPPA|LETTER SAMPI|KAPPA SYMBOL",
    "RHO SYMBOL|LUNATE SIGMA SYMBOL|LETTER YOT|CAPITAL THETA SYMBOL|LUNATE EPSILON SYMBOL",
    "REVERSED LUNATE EPSILON SYMBOL|CAPITAL LUNATE SIGMA SYMBOL|RHO WITH STROKE SYMBOL",
    "CAPITAL REVERSED LUNATE SIGMA SYMBOL|CAPITAL DOTTED LUNATE SIGMA SYMBOL",
    "CAPITAL REVERSED DOTTED LUNATE SIGMA SYMBOL"]⟩,
  ⟨"GREEK CAPITAL LETTER", [
    "HETA|ARCHAIC SAMPI|PAMPHYLIAN DIGAMMA|YOT|ALPHA WITH TONOS|EPSILON WITH TONOS",
    "ETA WITH TONOS|IOTA WITH TONOS|OMICRON WITH TONOS|UPSILON WITH TONOS|OMEGA WITH TONOS",
    "ALPHA|BETA|GAMMA|DELTA|EPSILON|ZETA|ETA|THETA|IOTA|KAPPA|LAMDA|MU|NU|XI|OMICRON|PI|RHO",
    "SIGMA|TAU|UPSILON|PHI|CHI|PSI|OMEGA|IOTA WITH DIALYTIKA|UPSILON WITH DIALYTIKA|SHO|SAN"]⟩,
  ⟨"GREEK SMALL LETTER", [
    "HETA|ARCHAIC SAMPI|PAMPHYLIAN DIGAMMA|IOTA WITH DIALYTIKA AND TONOS|ALPHA WITH TONOS",
    "EPSILON WITH TONOS|ETA WITH TONOS|IOTA WITH TONOS|UPSILON WITH DIALYTIKA AND TONOS|ALPHA",
    "BETA|GAMMA|DELTA|EPSILON|ZETA|ETA|THETA|IOTA|KAPPA|LAMDA|MU|NU|XI|OMICRON|PI|RHO",
    "FINAL SIGMA|SIGMA|TAU|UPSILON|PHI|CHI|PSI|OMEGA|IOTA WITH DIALYTIKA|UPSILON WITH DIALYTIKA",
    "OMICRON WITH TONOS|UPSILON WITH TONOS|OMEGA WITH TONOS|ARCHAIC KOPPA|STIGMA|DIGAMMA|KOPPA",
    "SAMPI|SHO|SAN"]⟩,
  ⟨"GREEN", [
    "APPLE|HEART|BOOK|SALAD"]⟩,
  ⟨"GRINNING", [
    "FACE|FACE WITH SMILING EYES|CAT FACE WITH SMILING EYES|FACE WITH STAR EYES",
    "FACE WITH ONE LARGE AND ONE SMALL EYE"]⟩,
  ⟨"HEART", [
    "WITH TIP ON THE LEFT|WITH ARROW|WITH RIBBON|DECORATION"]⟩,
  ⟨"HEAVY", [
    "WHITE DOWN-POINTING TRIANGLE|CIRCLE WITH STROKE AND TWO DOTS ABOVE|CHECK MARK",
    "MULTIPLICATION X|BALLOT X|GREEK CROSS|OPEN CENTRE CROSS|FOUR BALLOON-SPOKED ASTERISK",
    "OUTLINED BLACK STAR|ASTERISK|EIGHT POINTED RECTILINEAR BLACK STAR|TEARDROP-SPOKED ASTERISK",
    "TEARDROP-SPOKED PINWHEEL ASTERISK|CHEVRON SNOWFLAKE|SPARKLE",
    "EIGHT TEARDROP-SPOKED PROPELLER ASTERISK|EXCLAMATION MARK SYMBOL|VERTICAL BAR",
    "SINGLE TURNED COMMA QUOTATION MARK ORNAMENT|SINGLE COMMA QUOTATION MARK ORNAMENT",
    "DOUBLE TURNED COMMA QUOTATION MARK ORNAMENT|DOUBLE COMMA QUOTATION MARK ORNAMENT",
    "LOW SINGLE COMMA QUOTATION MARK ORNAMENT|LOW DOUBLE COMMA QUOTATION MARK ORNAMENT",
    "EXCLAMATION MARK ORNAMENT|HEART EXCLAMATION MARK ORNAMENT|BLACK HEART",
    "LEFT-POINTING ANGLE QUOTATION MARK ORNAMENT|RIGHT-POINTING ANGLE QUOTATION MARK ORNAMENT",
    "LEFT-POINTING ANGLE BRACKET ORNAMENT|RIGHT-POINTING ANGLE BRACKET ORNAMENT",
    "WIDE-HEADED RIGHTWARDS ARROW|PLUS SIGN|MINUS SIGN|DIVISION SIGN|SOUTH EAST ARROW",
    "RIGHTWARDS ARROW|NORTH EAST ARROW|ROUND-TIPPED RIGHTWARDS ARROW",
    "TRIANGLE-HEADED RIGHTWARDS ARROW|DASHED TRIANGLE-HEADED RIGHTWARDS ARROW",
    "BLACK CURVED DOWNWARDS AND RIGHTWARDS ARROW|BLACK CURVED UPWARDS AND RIGHTWARDS ARROW",
    "CONCAVE-POINTED BLACK RIGHTWARDS ARROW|LOWER RIGHT-SHADOWED WHITE RIGHTWARDS ARROW",
    "UPPER RIGHT-SHADOWED WHITE RIGHTWARDS ARROW|BLACK-FEATHERED SOUTH EAST ARROW",
    "BLACK-FEATHERED RIGHTWARDS ARROW|BLACK-FEATHERED NORTH EAST ARROW",
    "TEARDROP-SHANKED RIGHTWARDS ARROW|WEDGE-TAILED RIGHTWARDS ARROW|DOLLAR SIGN|LATIN CROSS"]⟩,
  ⟨"HORIZONTAL", [
    "BAR|ELLIPSIS|MALE WITH STROKE SIGN|TRAFFIC LIGHT|TABULATION|TABULATION SET"]⟩,
  ⟨"HOT", [
    "BEVERAGE|SPRINGS|DOG|PEPPER"]⟩,
  ⟨"ICE", [
    "SKATE|CREAM|HOCKEY STICK AND PUCK|CUBE"]⟩,
  ⟨"INFORMATION SEPARATOR", [
    "FOUR|THREE|TWO|ONE"]⟩,
  ⟨"INPUT SYMBOL FOR", [
    "LATIN CAPITAL LETTERS|LATIN SMALL LETTERS|NUMBERS|SYMBOLS|LATIN LETTERS"]⟩,
  ⟨"INVERTED", [
    "EXCLAMATION MARK|QUESTION MARK|UNDERTIE|OHM SIGN|LAZY S|PENTAGRAM"]⟩,
  ⟨"JAPANESE", [
    "BANK SYMBOL|DOLLS|POST OFFICE|CASTLE|OGRE|GOBLIN|SYMBOL FOR BEGINNER"]⟩,
  ⟨"KISSING", [
    "FACE|FACE WITH SMILING EYES|FACE WITH CLOSED EYES|CAT FACE WITH CLOSED EYES"]⟩,
  ⟨"LARGE", [
    "CIRCLE|RED CIRCLE|BLUE CIRCLE|ORANGE DIAMOND|BLUE DIAMOND"]⟩,
  ⟨"LATIN", [
    "LETTER YR|LETTER REVERSED ESH LOOP|LETTER TWO WITH STROKE",
    "LETTER INVERTED GLOTTAL STOP WITH STROKE|LETTER WYNN|LETTER DENTAL CLICK",
    "LETTER LATERAL CLICK|LETTER ALVEOLAR CLICK|LETTER RETROFLEX CLICK|CROSS"]⟩,
  ⟨"LATIN CAPITAL LETTER", [
    "A|B|C|D|E|F|G|H|I|J|K|L|M|N|O|P|Q|R|S|T|U|V|W|X|Y|Z|A WITH GRAVE|A WITH ACUTE",
    "A WITH CIRCUMFLEX|A WITH TILDE|A WITH DIAERESIS|A WITH RING ABOVE|AE|C WITH CEDILLA",
    "E WITH GRAVE|E WITH ACUTE|E WITH CIRCUMFLEX|E WITH DIAERESIS|I WITH GRAVE|I WITH ACUTE",
    "I WITH CIRCUMFLEX|I WITH DIAERESIS|ETH|N WITH TILDE|O WITH GRAVE|O WITH ACUTE",
    "O WITH CIRCUMFLEX|O WITH TILDE|O WITH DIAERESIS|O WITH STROKE|U WITH GRAVE|U WITH ACUTE",
    "U WITH CIRCUMFLEX|U WITH DIAERESIS|Y WITH ACUTE|THORN|A WITH MACRON|A WITH BREVE",
    "A WITH OGONEK|C WITH ACUTE|C WITH CIRCUMFLEX|C WITH DOT ABOVE|C WITH CARON|D WITH CARON",
    "D WITH STROKE|E WITH MACRON|E WITH BREVE|E WITH DOT ABOVE|E WITH OGONEK|E WITH CARON",
    "G WITH CIRCUMFLEX|G WITH BREVE|G WITH DOT ABOVE|G WITH CEDILLA|H WITH CIRCUMFLEX",
    "H WITH STROKE|I WITH TILDE|I WITH MACRON|I WITH BREVE|I WITH OGONEK|I WITH DOT ABOVE",
    "J WITH CIRCUMFLEX|K WITH CEDILLA|L WITH ACUTE|L WITH CEDILLA|L WITH CARON",
    "L WITH MIDDLE DOT|L WITH STROKE|N WITH ACUTE|N WITH CEDILLA|N WITH CARON|ENG|O WITH MACRON",
    "O WITH BREVE|O WITH DOUBLE ACUTE|R WITH ACUTE|R WITH CEDILLA|R WITH CARON|S WITH ACUTE",
    "S WITH CIRCUMFLEX|S WITH CEDILLA|S WITH CARON|T WITH CEDILLA|T WITH CARON|T WITH STROKE",
    "U WITH TILDE|U WITH MACRON|U WITH BREVE|U WITH RING ABOVE|U WITH DOUBLE ACUTE",
    "U WITH OGONEK|W WITH CIRCUMFLEX|Y WITH CIRCUMFLEX|Y WITH DIAERESIS|Z WITH ACUTE",
    "Z WITH DOT ABOVE|Z WITH CARON|B WITH HOOK|B WITH TOPBAR|TONE SIX|OPEN O|C WITH HOOK",
    "AFRICAN D|D WITH HOOK|D WITH TOPBAR|REVERSED E|SCHWA|OPEN E|F WITH HOOK|G WITH HOOK|GAMMA",
    "IOTA|I WITH STROKE|K WITH HOOK|TURNED M|N WITH LEFT HOOK|O WITH MIDDLE TILDE|O WITH HORN",
    "OI|P WITH HOOK|TONE TWO|ESH|T WITH HOOK|T WITH RETROFLEX HOOK|U WITH HORN|UPSILON",
    "V WITH HOOK|Y WITH HOOK|Z WITH STROKE|EZH|EZH REVERSED|TONE FIVE|DZ WITH CARON",
    "D WITH SMALL LETTER Z WITH CARON|LJ|L WITH SMALL LETTER J|NJ|N WITH SMALL LETTER J",
    "A WITH CARON|I WITH CARON|O WITH CARON|U WITH CARON|U WITH DIAERESIS AND MACRON",
    "U WITH DIAERESIS AND ACUTE|U WITH DIAERESIS AND CARON|U WITH DIAERESIS AND GRAVE",
    "A WITH DIAERESIS AND MACRON|A WITH DOT ABOVE AND MACRON|AE WITH MACRON|G WITH STROKE",
    "G WITH CARON|K WITH CARON|O WITH OGONEK|O WITH OGONEK AND MACRON|EZH WITH CARON|DZ",
    "D WITH SMALL LETTER Z|G WITH ACUTE|HWAIR|WYNN|N WITH GRAVE|A WITH RING ABOVE AND ACUTE",
    "AE WITH ACUTE|O WITH STROKE AND ACUTE|A WITH DOUBLE GRAVE|A WITH INVERTED BREVE",
    "E WITH DOUBLE GRAVE|E WITH INVERTED BREVE|I WITH DOUBLE GRAVE|I WITH INVERTED BREVE",
    "O WITH DOUBLE GRAVE|O WITH INVERTED BREVE|R WITH DOUBLE GRAVE|R WITH INVERTED BREVE",
    "U WITH DOUBLE GRAVE|U WITH INVERTED BREVE|S WITH COMMA BELOW|T WITH COMMA BELOW|YOGH",
    "H WITH CARON|N WITH LONG RIGHT LEG|OU|Z WITH HOOK|A WITH DOT ABOVE|E WITH CEDILLA",
    "O WITH DIAERESIS AND MACRON|O WITH TILDE AND MACRON|O WITH DOT ABOVE",
    "O WITH DOT ABOVE AND MACRON|Y WITH MACRON|A WITH STROKE|C WITH STROKE|L WITH BAR",
    "T WITH DIAGONAL STROKE|GLOTTAL STOP|B WITH STROKE|U BAR|TURNED V|E WITH STROKE",
    "J WITH STROKE|SMALL Q WITH HOOK TAIL|R WITH STROKE|Y WITH STROKE"]⟩,
  ⟨"LATIN SMALL LETTER", [
    "A|B|C|D|E|F|G|H|I|J|K|L|M|N|O|P|Q|R|S|T|U|V|W|X|Y|Z|SHARP S|A WITH GRAVE|A WITH ACUTE",
    "A WITH CIRCUMFLEX|A WITH TILDE|A WITH DIAERESIS|A WITH RING ABOVE|AE|C WITH CEDILLA",
    "E WITH GRAVE|E WITH ACUTE|E WITH CIRCUMFLEX|E WITH DIAERESIS|I WITH GRAVE|I WITH ACUTE",
    "I WITH CIRCUMFLEX|I WITH DIAERESIS|ETH|N WITH TILDE|O WITH GRAVE|O WITH ACUTE",
    "O WITH CIRCUMFLEX|O WITH TILDE|O WITH DIAERESIS|O WITH STROKE|U WITH GRAVE|U WITH ACUTE",
    "U WITH CIRCUMFLEX|U WITH DIAERESIS|Y WITH ACUTE|THORN|Y WITH DIAERESIS|A WITH MACRON",
    "A WITH BREVE|A WITH OGONEK|C WITH ACUTE|C WITH CIRCUMFLEX|C WITH DOT ABOVE|C WITH CARON",
    "D WITH CARON|D WITH STROKE|E WITH MACRON|E WITH BREVE|E WITH DOT ABOVE|E WITH OGONEK",
    "E WITH CARON|G WITH CIRCUMFLEX|G WITH BREVE|G WITH DOT ABOVE|G WITH CEDILLA",
    "H WITH CIRCUMFLEX|H WITH STROKE|I WITH TILDE|I WITH MACRON|I WITH BREVE|I WITH OGONEK",
    "DOTLESS I|J WITH CIRCUMFLEX|K WITH CEDILLA|KRA|L WITH ACUTE|L WITH CEDILLA|L WITH CARON",
    "L WITH MIDDLE DOT|L WITH STROKE|N WITH ACUTE|N WITH CEDILLA|N WITH CARON",
    "N PRECEDED BY APOSTROPHE|ENG|O WITH MACRON|O WITH BREVE|O WITH DOUBLE ACUTE|R WITH ACUTE",
    "R WITH CEDILLA|R WITH CARON|S WITH ACUTE|S WITH CIRCUMFLEX|S WITH CEDILLA|S WITH CARON",
    "T WITH CEDILLA|T WITH CARON|T WITH STROKE|U WITH TILDE|U WITH MACRON|U WITH BREVE",
    "U WITH RING ABOVE|U WITH DOUBLE ACUTE|U WITH OGONEK|W WITH CIRCUMFLEX|Y WITH CIRCUMFLEX",
    "Z WITH ACUTE|Z WITH DOT ABOVE|Z WITH CARON|LONG S|B WITH STROKE|B WITH TOPBAR|TONE SIX",
    "C WITH HOOK|D WITH TOPBAR|TURNED DELTA|F WITH HOOK|HV|K WITH HOOK|L WITH BAR",
    "LAMBDA WITH STROKE|N WITH LONG RIGHT LEG|O WITH HORN|OI|P WITH HOOK|TONE TWO",
    "T WITH PALATAL HOOK|T WITH HOOK|U WITH HORN|Y WITH HOOK|Z WITH STROKE|EZH REVERSED",
    "EZH WITH TAIL|TONE FIVE|DZ WITH CARON|LJ|NJ|A WITH CARON|I WITH CARON|O WITH CARON",
    "U WITH CARON|U WITH DIAERESIS AND MACRON|U WITH DIAERESIS AND ACUTE",
    "U WITH DIAERESIS AND CARON|U WITH DIAERESIS AND GRAVE|TURNED E|A WITH DIAERESIS AND MACRON",
    "A WITH DOT ABOVE AND MACRON|AE WITH MACRON|G WITH STROKE|G WITH CARON|K WITH CARON",
    "O WITH OGONEK|O WITH OGONEK AND MACRON|EZH WITH CARON|J WITH CARON|DZ|G WITH ACUTE",
    "N WITH GRAVE|A WITH RING ABOVE AND ACUTE|AE WITH ACUTE|O WITH STROKE AND ACUTE",
    "A WITH DOUBLE GRAVE|A WITH INVERTED BREVE|E WITH DOUBLE GRAVE|E WITH INVERTED BREVE",
    "I WITH DOUBLE GRAVE|I WITH INVERTED BREVE|O WITH DOUBLE GRAVE|O WITH INVERTED BREVE",
    "R WITH DOUBLE GRAVE|R WITH INVERTED BREVE|U WITH DOUBLE GRAVE|U WITH INVERTED BREVE",
    "S WITH COMMA BELOW|T WITH COMMA BELOW|YOGH|H WITH CARON|D WITH CURL|OU|Z WITH HOOK",
    "A WITH DOT ABOVE|E WITH CEDILLA|O WITH DIAERESIS AND MACRON|O WITH TILDE AND MACRON",
    "O WITH DOT ABOVE|O WITH DOT ABOVE AND MACRON|Y WITH MACRON|L WITH CURL|N WITH CURL",
    "T WITH CURL|DOTLESS J|DB DIGRAPH|QP DIGRAPH|C WITH STROKE|S WITH SWASH TAIL",
    "Z WITH SWASH TAIL|GLOTTAL STOP|E WITH STROKE|J WITH STROKE|Q WITH HOOK TAIL|R WITH STROKE",
    "Y WITH STROKE"]⟩,
  ⟨"LEFT", [
    "PARENTHESIS|SQUARE BRACKET|CURLY BRACKET|SINGLE QUOTATION MARK|DOUBLE QUOTATION MARK",
    "SQUARE BRACKET WITH QUILL|RIGHT ARROW|RIGHT WAVE ARROW|RIGHT ARROW WITH STROKE",
    "RIGHT DOUBLE ARROW WITH STROKE|RIGHT DOUBLE ARROW|RIGHT ARROW WITH VERTICAL STROKE",
    "RIGHT ARROW WITH DOUBLE VERTICAL STROKE|RIGHT OPEN-HEADED ARROW|TACK",
    "NORMAL FACTOR SEMIDIRECT PRODUCT|SEMIDIRECT PRODUCT|SEVEN EIGHTHS BLOCK",
    "THREE QUARTERS BLOCK|FIVE EIGHTHS BLOCK|HALF BLOCK|THREE EIGHTHS BLOCK|ONE QUARTER BLOCK",
    "ONE EIGHTH BLOCK|HALF BLACK CIRCLE|CLOSED ENTRY|HAND TELEPHONE RECEIVER|WRITING HAND",
    "SPEECH BUBBLE|THOUGHT BUBBLE|ANGER BUBBLE|LUGGAGE|HALF CIRCLE WITH FOUR DOTS",
    "HALF CIRCLE WITH THREE DOTS|HALF CIRCLE WITH TWO DOTS|HALF CIRCLE WITH DOT|HALF CIRCLE"]⟩,
  ⟨"LEFT-TO-RIGHT", [
    "MARK|EMBEDDING|OVERRIDE|ISOLATE"]⟩,
  ⟨"LEFTWARDS", [
    "ARROW|ARROW WITH STROKE|WAVE ARROW|TWO HEADED ARROW|ARROW WITH TAIL|ARROW FROM BAR",
    "ARROW WITH HOOK|ARROW WITH LOOP|ARROW TO BAR OVER RIGHTWARDS ARROW TO BAR",
    "HARPOON WITH BARB UPWARDS|HARPOON WITH BARB DOWNWARDS|ARROW OVER RIGHTWARDS ARROW",
    "PAIRED ARROWS|HARPOON OVER RIGHTWARDS HARPOON|DOUBLE ARROW WITH STROKE|DOUBLE ARROW",
    "TRIPLE ARROW|SQUIGGLE ARROW|DASHED ARROW|ARROW TO BAR|WHITE ARROW",
    "ARROW WITH VERTICAL STROKE|ARROW WITH DOUBLE VERTICAL STROKE|OPEN-HEADED ARROW"]⟩,
  ⟨"LESS-THAN", [
    "SIGN|OR EQUAL TO|OVER EQUAL TO|BUT NOT EQUAL TO|OR EQUIVALENT TO|OR GREATER-THAN|WITH DOT",
    "EQUAL TO OR GREATER-THAN|BUT NOT EQUIVALENT TO"]⟩,
  ⟨"LIGHT", [
    "SHADE|VERTICAL BAR|LEFT TORTOISE SHELL BRACKET ORNAMENT",
    "RIGHT TORTOISE SHELL BRACKET ORNAMENT|CHECK MARK|RAIL"]⟩,
  ⟨"LINE", [
    "SEPARATOR|FEED|TABULATION|TABULATION SET"]⟩,
  ⟨"LOWER", [
    "ONE EIGHTH BLOCK|ONE QUARTER BLOCK|THREE EIGHTHS BLOCK|HALF BLOCK|FIVE EIGHTHS BLOCK",
    "THREE QUARTERS BLOCK|SEVEN EIGHTHS BLOCK|HALF INVERSE WHITE CIRCLE",
    "RIGHT QUADRANT CIRCULAR ARC|LEFT QUADRANT CIRCULAR ARC|HALF CIRCLE|LEFT TRIANGLE",
    "RIGHT TRIANGLE|BLADE SCISSORS|RIGHT PENCIL|RIGHT DROP-SHADOWED WHITE SQUARE",
    "RIGHT SHADOWED WHITE SQUARE|RIGHT SHADOWED WHITE CIRCLE|LEFT PENCIL|LEFT BALLPOINT PEN",
    "LEFT FOUNTAIN PEN|LEFT PAINTBRUSH|LEFT CRAYON"]⟩,
  ⟨"MALE", [
    "SIGN|AND FEMALE SIGN|WITH STROKE SIGN|WITH STROKE AND MALE AND FEMALE SIGN"]⟩,
  ⟨"MAN", [
    "AND WOMAN HOLDING HANDS|WITH GUA PI MAO|WITH TURBAN|IN BUSINESS SUIT LEVITATING|DANCING",
    "IN TUXEDO"]⟩,
  ⟨"MEDIUM", [
    "MATHEMATICAL SPACE|SHADE|WHITE CIRCLE|BLACK CIRCLE|SMALL WHITE CIRCLE|VERTICAL BAR",
    "LEFT PARENTHESIS ORNAMENT|RIGHT PARENTHESIS ORNAMENT|FLATTENED LEFT PARENTHESIS ORNAMENT",
    "FLATTENED RIGHT PARENTHESIS ORNAMENT|LEFT-POINTING ANGLE BRACKET ORNAMENT",
    "RIGHT-POINTING ANGLE BRACKET ORNAMENT|LEFT CURLY BRACKET ORNAMENT",
    "RIGHT CURLY BRACKET ORNAMENT"]⟩,
  ⟨"MUSICAL", [
    "KEYBOARD WITH JACKS|NOTE|KEYBOARD|SCORE"]⟩,
  ⟨"N-ARY", [
    "PRODUCT|COPRODUCT|SUMMATION|LOGICAL AND|LOGICAL OR|INTERSECTION|UNION"]⟩,
  ⟨"NEITHER", [
    "APPROXIMATELY NOR ACTUALLY EQUAL TO|LESS-THAN NOR EQUAL TO|GREATER-THAN NOR EQUAL TO",
    "LESS-THAN NOR EQUIVALENT TO|GREATER-THAN NOR EQUIVALENT TO|LESS-THAN NOR GREATER-THAN",
    "GREATER-THAN NOR LESS-THAN|A SUBSET OF NOR EQUAL TO|A SUPERSET OF NOR EQUAL TO"]⟩,
  ⟨"NEW", [
    "SHEQEL SIGN|MOON SYMBOL|MOON WITH FACE|LINE"]⟩,
  ⟨"NO", [
    "ENTRY|MOBILE PHONES|ONE UNDER EIGHTEEN SYMBOL|PIRACY|ENTRY SIGN|SMOKING SYMBOL|BICYCLES",
    "PEDESTRIANS|BREAK HERE"]⟩,
  ⟨"NORTH WEST", [
    "ARROW|ARROW TO LONG BAR|DOUBLE ARROW|ARROW TO CORNER"]⟩,
  ⟨"NOT", [
    "SIGN|AN ELEMENT OF|PARALLEL TO|TILDE|ASYMPTOTICALLY EQUAL TO|ALMOST EQUAL TO|EQUAL TO",
    "IDENTICAL TO|EQUIVALENT TO|LESS-THAN|GREATER-THAN|A SUBSET OF|A SUPERSET OF|TRUE",
    "SQUARE IMAGE OF OR EQUAL TO|SQUARE ORIGINAL OF OR EQUAL TO|NORMAL SUBGROUP OF",
    "NORMAL SUBGROUP OF OR EQUAL TO"]⟩,
  ⟨"NOTCHED", [
    "LOWER RIGHT-SHADOWED WHITE RIGHTWARDS ARROW|UPPER RIGHT-SHADOWED WHITE RIGHTWARDS ARROW",
    "LEFT SEMICIRCLE WITH THREE DOTS|RIGHT SEMICIRCLE WITH THREE DOTS"]⟩,
  ⟨"ONCOMING", [
    "BUS|POLICE CAR|TAXI|AUTOMOBILE|FIRE ENGINE"]⟩,
  ⟨"OPEN", [
    "CENTRE CROSS|CENTRE BLACK STAR|CENTRE ASTERISK|CENTRE TEARDROP-SPOKED ASTERISK|HANDS SIGN",
    "FILE FOLDER|BOOK|MAILBOX WITH RAISED FLAG|MAILBOX WITH LOWERED FLAG|LOCK|FOLDER"]⟩,
  ⟨"OUTLINED", [
    "WHITE STAR|GREEK CROSS|LATIN CROSS|BLACK STAR"]⟩,
  ⟨"PARTIAL LINE", [
    "FORWARD|DOWN|BACKWARD|UP"]⟩,
  ⟨"PERSON", [
    "WITH BALL|WITH BLOND HAIR|BOWING DEEPLY|RAISING BOTH HANDS IN CELEBRATION|FROWNING",
    "WITH POUTING FACE|WITH FOLDED HANDS|DOING CARTWHEEL|WITH HEADSCARF|IN STEAMY ROOM|CLIMBING",
    "IN LOTUS POSITION"]⟩,
  ⟨"PRECEDES", [
    "OR EQUAL TO|OR EQUIVALENT TO|UNDER RELATION|BUT NOT EQUIVALENT TO"]⟩,
  ⟨"PRIVATE", [
    "USE ONE|USE-1|USE TWO|USE-2"]⟩,
  ⟨"QUADRANT UPPER", [
    "LEFT|LEFT AND LOWER LEFT AND LOWER RIGHT|LEFT AND LOWER RIGHT",
    "LEFT AND UPPER RIGHT AND LOWER LEFT|LEFT AND UPPER RIGHT AND LOWER RIGHT|RIGHT",
    "RIGHT AND LOWER LEFT|RIGHT AND LOWER LEFT AND LOWER RIGHT"]⟩,
  ⟨"RAISED", [
    "FIST|HAND|HAND WITH FINGERS SPLAYED|HAND WITH PART BETWEEN MIDDLE AND RING FINGERS",
    "BACK OF HAND"]⟩,
  ⟨"RECYCLING SYMBOL FOR", [
    "TYPE-1 PLASTICS|TYPE-2 PLASTICS|TYPE-3 PLASTICS|TYPE-4 PLASTICS|TYPE-5 PLASTICS",
    "TYPE-6 PLASTICS|TYPE-7 PLASTICS|GENERIC MATERIALS"]⟩,
  ⟨"REVERSED", [
    "PRIME|DOUBLE PRIME|TRIPLE PRIME|PILCROW SIGN|SEMICOLON|SANS-SERIF CAPITAL L|TILDE",
    "TILDE EQUALS|ROTATED FLORAL HEART BULLET|RAISED HAND WITH FINGERS SPLAYED|THUMBS UP SIGN",
    "THUMBS DOWN SIGN|VICTORY HAND|HAND WITH MIDDLE FINGER EXTENDED"]⟩,
  ⟨"RIGHT", [
    "PARENTHESIS|SQUARE BRACKET|CURLY BRACKET|SINGLE QUOTATION MARK|DOUBLE QUOTATION MARK",
    "SQUARE BRACKET WITH QUILL|ARROW WITH SMALL CIRCLE|ANGLE|TACK|ANGLE WITH ARC|TRIANGLE",
    "NORMAL FACTOR SEMIDIRECT PRODUCT|SEMIDIRECT PRODUCT|HALF BLOCK|ONE EIGHTH BLOCK",
    "HALF BLACK CIRCLE|SPEAKER|SPEAKER WITH ONE SOUND WAVE|SPEAKER WITH THREE SOUND WAVES",
    "HAND TELEPHONE RECEIVER|SPEECH BUBBLE|THOUGHT BUBBLE|ANGER BUBBLE"]⟩,
  ⟨"RIGHT-TO-LEFT", [
    "MARK|EMBEDDING|OVERRIDE|ISOLATE"]⟩,
  ⟨"RIGHTWARDS", [
    "ARROW|ARROW WITH STROKE|WAVE ARROW|TWO HEADED ARROW|ARROW WITH TAIL|ARROW FROM BAR",
    "ARROW WITH HOOK|ARROW WITH LOOP|ARROW WITH CORNER DOWNWARDS|HARPOON WITH BARB UPWARDS",
    "HARPOON WITH BARB DOWNWARDS|ARROW OVER LEFTWARDS ARROW|PAIRED ARROWS",
    "HARPOON OVER LEFTWARDS HARPOON|DOUBLE ARROW WITH STROKE|DOUBLE ARROW|TRIPLE ARROW",
    "SQUIGGLE ARROW|DASHED ARROW|ARROW TO BAR|WHITE ARROW|WHITE ARROW FROM WALL",
    "ARROW WITH VERTICAL STROKE|ARROW WITH DOUBLE VERTICAL STROKE|OPEN-HEADED ARROW"]⟩,
  ⟨"RING", [
    "OPERATOR|IN EQUAL TO|EQUAL TO|BUOY"]⟩,
  ⟨"SCRIPT", [
    "SMALL G|SMALL L|SMALL E|SMALL O"]⟩,
  ⟨"SCRIPT CAPITAL", [
    "H|I|L|P|R|B|E|F|M"]⟩,
  ⟨"SIDEWAYS", [
    "WHITE LEFT POINTING INDEX|WHITE RIGHT POINTING INDEX|BLACK LEFT POINTING INDEX",
    "BLACK RIGHT POINTING INDEX|WHITE UP POINTING INDEX|WHITE DOWN POINTING INDEX",
    "BLACK UP POINTING INDEX|BLACK DOWN POINTING INDEX"]⟩,
  ⟨"SINGLE", [
    "LOW-9 QUOTATION MARK|HIGH-REVERSED-9 QUOTATION MARK|LEFT-POINTING ANGLE QUOTATION MARK",
    "RIGHT-POINTING ANGLE QUOTATION MARK|SHIFT TWO|SHIFT THREE|GRAPHIC CHARACTER INTRODUCER",
    "CHARACTER INTRODUCER"]⟩,
  ⟨"SMALL", [
    "ELEMENT OF|CONTAINS AS MEMBER|ELEMENT OF WITH VERTICAL BAR AT END OF HORIZONTAL STROKE",
    "ELEMENT OF WITH OVERBAR|CONTAINS WITH VERTICAL BAR AT END OF HORIZONTAL STROKE",
    "CONTAINS WITH OVERBAR|ORANGE DIAMOND|BLUE DIAMOND|AIRPLANE"]⟩,
  ⟨"SMILING FACE WITH", [
    "OPEN MOUTH|OPEN MOUTH AND SMILING EYES|OPEN MOUTH AND COLD SWEAT",
    "OPEN MOUTH AND TIGHTLY-CLOSED EYES|HALO|HORNS|SMILING EYES|HEART-SHAPED EYES|SUNGLASSES",
    "SMILING EYES AND HAND COVERING MOUTH|SMILING EYES AND THREE HEARTS|TEAR"]⟩,
  ⟨"SOUTH", [
    "EAST ARROW|WEST ARROW|EAST DOUBLE ARROW|WEST DOUBLE ARROW|EAST ARROW TO CORNER"]⟩,
  ⟨"SQUARE", [
    "ROOT|IMAGE OF|ORIGINAL OF|IMAGE OF OR EQUAL TO|ORIGINAL OF OR EQUAL TO|CAP|CUP",
    "IMAGE OF OR NOT EQUAL TO|ORIGINAL OF OR NOT EQUAL TO|WITH HORIZONTAL FILL",
    "WITH VERTICAL FILL|WITH ORTHOGONAL CROSSHATCH FILL|WITH UPPER LEFT TO LOWER RIGHT FILL",
    "WITH UPPER RIGHT TO LOWER LEFT FILL|WITH DIAGONAL CROSSHATCH FILL|WITH LEFT HALF BLACK",
    "WITH RIGHT HALF BLACK|WITH UPPER LEFT DIAGONAL HALF BLACK",
    "WITH LOWER RIGHT DIAGONAL HALF BLACK|FOUR CORNERS"]⟩,
  ⟨"SQUARED", [
    "PLUS|MINUS|TIMES|DOT OPERATOR|KEY|SALTIRE"]⟩,
  ⟨"STAR", [
    "EQUALS|OPERATOR|AND CRESCENT|OF DAVID"]⟩,
  ⟨"START OF", [
    "HEADING|TEXT|SELECTED AREA|GUARDED AREA|PROTECTED AREA|STRING"]⟩,
  ⟨"SUCCEEDS", [
    "OR EQUAL TO|OR EQUIVALENT TO|UNDER RELATION|BUT NOT EQUIVALENT TO"]⟩,
  ⟨"TELEPHONE", [
    "SIGN|LOCATION SIGN|RECEIVER|RECEIVER WITH PAGE|ON TOP OF MODEM"]⟩,
  ⟨"THREE", [
    "DOT PUNCTUATION|RIGHTWARDS ARROWS|LINES CONVERGING RIGHT|LINES CONVERGING LEFT",
    "NETWORKED COMPUTERS|BUTTON MOUSE|RAYS ABOVE|RAYS BELOW|RAYS LEFT|RAYS RIGHT|SPEECH BUBBLES"]⟩,
  ⟨"TRIGRAM FOR", [
    "HEAVEN|LAKE|FIRE|THUNDER|WIND|WATER|MOUNTAIN|EARTH"]⟩,
  ⟨"TRIPLE", [
    "PRIME|INTEGRAL|TILDE|VERTICAL BAR RIGHT TURNSTILE"]⟩,
  ⟨"TURNED", [
    "GREEK SMALL LETTER IOTA|CAPITAL F|SANS-SERIF CAPITAL G|SANS-SERIF CAPITAL L",
    "SANS-SERIF CAPITAL Y|AMPERSAND|SMALL F|WHITE SHOGI PIECE|BLACK SHOGI PIECE|OK HAND SIGN"]⟩,
  ⟨"TWO", [
    "DOT LEADER|ASTERISKS ALIGNED VERTICALLY|DOT PUNCTUATION|MEN HOLDING HANDS",
    "WOMEN HOLDING HANDS|HEARTS|BUTTON MOUSE|SPEECH BUBBLES"]⟩,
  ⟨"UP DOWN", [
    "ARROW|ARROW WITH BASE|DOUBLE ARROW|WHITE ARROW"]⟩,
  ⟨"UP-POINTING", [
    "TRIANGLE WITH LEFT HALF BLACK|TRIANGLE WITH RIGHT HALF BLACK|RED TRIANGLE",
    "SMALL RED TRIANGLE|MILITARY AIRPLANE|AIRPLANE|SMALL AIRPLANE"]⟩,
  ⟨"UPPER", [
    "HALF BLOCK|ONE EIGHTH BLOCK|HALF INVERSE WHITE CIRCLE|LEFT QUADRANT CIRCULAR ARC",
    "RIGHT QUADRANT CIRCULAR ARC|HALF CIRCLE|LEFT TRIANGLE|RIGHT TRIANGLE|BLADE SCISSORS",
    "RIGHT PENCIL|RIGHT DROP-SHADOWED WHITE SQUARE|RIGHT SHADOWED WHITE SQUARE",
    "RIGHT SHADOWED WHITE CIRCLE"]⟩,
  ⟨"UPWARDS", [
    "ARROW|TWO HEADED ARROW|ARROW FROM BAR|ARROW WITH TIP LEFTWARDS|ARROW WITH TIP RIGHTWARDS",
    "HARPOON WITH BARB RIGHTWARDS|HARPOON WITH BARB LEFTWARDS",
    "ARROW LEFTWARDS OF DOWNWARDS ARROW|PAIRED ARROWS|DOUBLE ARROW|ARROW WITH DOUBLE STROKE",
    "DASHED ARROW|WHITE ARROW|WHITE ARROW FROM BAR|WHITE ARROW ON PEDESTAL",
    "WHITE ARROW ON PEDESTAL WITH HORIZONTAL BAR|WHITE ARROW ON PEDESTAL WITH VERTICAL BAR",
    "WHITE DOUBLE ARROW|WHITE DOUBLE ARROW ON PEDESTAL"]⟩,
  ⟨"VERTICAL", [
    "LINE|FOUR DOTS|ELLIPSIS|MALE WITH STROKE SIGN|TRAFFIC LIGHT|TABULATION|TABULATION SET"]⟩,
  ⟨"WATER", [
    "WAVE|BUFFALO|CLOSET|POLO"]⟩,
  ⟨"WHITE", [
    "SQUARE|SQUARE WITH ROUNDED CORNERS|SQUARE CONTAINING BLACK SMALL SQUARE|SMALL SQUARE",
    "RECTANGLE|VERTICAL RECTANGLE|PARALLELOGRAM|UP-POINTING TRIANGLE|UP-POINTING SMALL TRIANGLE",
    "RIGHT-POINTING TRIANGLE|RIGHT-POINTING SMALL TRIANGLE|RIGHT-POINTING POINTER",
    "DOWN-POINTING TRIANGLE|DOWN-POINTING SMALL TRIANGLE|LEFT-POINTING TRIANGLE",
    "LEFT-POINTING SMALL TRIANGLE|LEFT-POINTING POINTER|DIAMOND",
    "DIAMOND CONTAINING BLACK SMALL DIAMOND|CIRCLE|BULLET|SQUARE WITH VERTICAL BISECTING LINE",
    "UP-POINTING TRIANGLE WITH DOT|SQUARE WITH UPPER LEFT QUADRANT",
    "SQUARE WITH LOWER LEFT QUADRANT|SQUARE WITH LOWER RIGHT QUADRANT",
    "SQUARE WITH UPPER RIGHT QUADRANT|CIRCLE WITH UPPER LEFT QUADRANT",
    "CIRCLE WITH LOWER LEFT QUADRANT|CIRCLE WITH LOWER RIGHT QUADRANT",
    "CIRCLE WITH UPPER RIGHT QUADRANT|MEDIUM SQUARE|MEDIUM SMALL SQUARE|STAR|TELEPHONE",
    "SHOGI PIECE|LEFT POINTING INDEX|UP POINTING INDEX|RIGHT POINTING INDEX|DOWN POINTING INDEX",
    "FROWNING FACE|SMILING FACE|SUN WITH RAYS|CHESS KING|CHESS QUEEN|CHESS ROOK|CHESS BISHOP",
    "CHESS KNIGHT|CHESS PAWN|HEART SUIT|DIAMOND SUIT|SPADE SUIT|CLUB SUIT|CIRCLE WITH DOT RIGHT",
    "CIRCLE WITH TWO DOTS|FLAG|DRAUGHTS MAN|DRAUGHTS KING|DIAMOND IN SQUARE",
    "TWO-WAY LEFT WAY TRAFFIC|LEFT LANE MERGE|FLAG WITH HORIZONTAL MIDDLE BLACK STRIPE|SCISSORS",
    "HEAVY CHECK MARK|NIB|FOUR POINTED STAR|FLORETTE|QUESTION MARK ORNAMENT",
    "EXCLAMATION MARK ORNAMENT|SUN|SUN WITH SMALL CLOUD|SUN BEHIND CLOUD",
    "SUN BEHIND CLOUD WITH RAIN|PENNANT|UP POINTING BACKHAND INDEX|DOWN POINTING BACKHAND INDEX",
    "LEFT POINTING BACKHAND INDEX|RIGHT POINTING BACKHAND INDEX|FLOWER|SQUARE BUTTON",
    "LATIN CROSS|TOUCHTONE TELEPHONE|DOWN POINTING LEFT HAND INDEX|HARD SHELL FLOPPY DISK|HEART"]⟩,
  ⟨"WOMANS", [
    "HAT|CLOTHES|SANDAL|BOOTS"]⟩,
  ⟨"ZERO WIDTH", [
    "SPACE|NON-JOINER|JOINER|NO-BREAK SPACE"]⟩]

end GraphqlRequests.Text.Table

namespace GraphqlRequests.Text

def isCharacterName (name : List Char) : Bool :=
  let name := String.ofList (name.map Char.toUpper)
  Table.characterNames.any fun group => name ∈ group.names

end GraphqlRequests.Text
