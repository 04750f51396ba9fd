import FixedExtract.Text.CharacterName.Run
/-!
# Names of symbols

The characters from U+2000 to U+2FFF: punctuation, arrows, mathematical operators, drawing and Braille, with a few
later scripts.
-/

namespace FixedExtract.Text

/-- The runs of these characters, in ascending order. -/
def symbolNames : List NameRun :=
  [⟨8192, ["aEN QUADbM QUADbN SPACEbM SPACEaTHREE-PER-EM SPACEaFOUR-PER-EM SPACEaSIX-PER-EM SPACEa",
     "FIGURE SPACEaPUNCTUATION SPACEaTHIN SPACEaHAIR SPACEaZERO WIDTH SPACElNON-JOINERlJOINERaLEFT",
     "-TO-RIGHT MARKaRIGHT-TO-LEFT MARKaHYPHENaNON-BREAKING HYPHENaFIGURE DASHaEN DASHbM DASHaHORI",
     "ZONTAL BARaDOUBLE VERTICAL LINEhLOW LINEaLEFT SINGLE QUOTATION MARKaRIGHT SINGLE QUOTATION M",
     "ARKaSINGLE LOW-9 QUOTATION MARKhHIGH-REVERSED-9 QUOTATION MARKaLEFT DOUBLE QUOTATION MARKaRI",
     "GHT DOUBLE QUOTATION MARKaDOUBLE LOW-9 QUOTATION MARKhHIGH-REVERSED-9 QUOTATION MARKbAGGERbO",
     "UBLE DAGGERaBULLETaTRIANGULAR BULLETaONE DOT LEADERaTWO DOT LEADERaHORIZONTAL ELLIPSISbYPHEN",
     "ATION POINTaLINE SEPARATORaPARAGRAPH SEPARATORaLEFT-TO-RIGHT EMBEDDINGaRIGHT-TO-LEFT EMBEDDI",
     "NGaPOP DIRECTIONAL FORMATTINGaLEFT-TO-RIGHT OVERRIDEaRIGHT-TO-LEFT OVERRIDEaNARROW NO-BREAK ",
     "SPACEaPER MILLE SIGNeTEN THOUSAND SIGNbRIMEaDOUBLE PRIMEaTRIPLE PRIMEaREVERSED PRIMEjDOUBLE ",
     "PRIMEjTRIPLE PRIMEaCARETaSINGLE LEFT-POINTING ANGLE QUOTATION MARKhRIGHT-POINTING ANGLE QUOT",
     "ATION MARKaREFERENCE MARKaDOUBLE EXCLAMATION MARKaINTERROBANGaOVERLINEaUNDERTIEaCHARACTER TI",
     "EbARET INSERTION POINTaASTERISMaHYPHEN BULLETaFRACTION SLASHaLEFT SQUARE BRACKET WITH QUILLa",
     "RIGHT SQUARE BRACKET WITH QUILLaDOUBLE QUESTION MARKaQUESTION EXCLAMATION MARKaEXCLAMATION Q",
     "UESTION MARKaTIRONIAN SIGN ETaREVERSED PILCROW SIGNaBLACK LEFTWARDS BULLETgRIGHTWARDS BULLET",
     "aLOW ASTERISKaREVERSED SEMICOLONaCLOSE UPaTWO ASTERISKS ALIGNED VERTICALLYaCOMMERCIAL MINUS ",
     "SIGNaSWUNG DASHaINVERTED UNDERTIEaFLOWER PUNCTUATION MARKaTHREE DOT PUNCTUATIONaQUADRUPLE PR",
     "IMEaFOUR DOT PUNCTUATIONbIVE DOT PUNCTUATIONaTWO DOT PUNCTUATIONaFOUR DOT MARKaDOTTED CROSSa",
     "TRICOLONaVERTICAL FOUR DOTSaMEDIUM MATHEMATICAL SPACEaWORD JOINERaFUNCTION APPLICATIONaINVIS",
     "IBLE TIMESkSEPARATORkPLUS"]⟩,
   ⟨8294, ["aLEFT-TO-RIGHT ISOLATEaRIGHT-TO-LEFT ISOLATEaFIRST STRONG ISOLATEaPOP DIRECTIONAL ISOL",
     "ATEaINHIBIT SYMMETRIC SWAPPINGaACTIVATE SYMMETRIC SWAPPINGaINHIBIT ARABIC FORM SHAPINGaACTIV",
     "ATE ARABIC FORM SHAPINGaNATIONAL DIGIT SHAPESbOMINAL DIGIT SHAPESaSUPERSCRIPT ZEROmLATIN SMA",
     "LL LETTER I"]⟩,
   ⟨8308, ["aSUPERSCRIPT FOURnIVEmSIXnEVENmEIGHTmNINEmPLUS SIGNmMINUSmEQUALS SIGNmLEFT PARENTHESIS",
     "mRIGHT PARENTHESISmLATIN SMALL LETTER NcBSCRIPT ZEROkONEkTWOlHREEkFOURlIVEkSIXlEVENkEIGHTkNI",
     "NEkPLUS SIGNkMINUSkEQUALS SIGNkLEFT PARENTHESISkRIGHT PARENTHESIS"]⟩,
   ⟨8336, ["aLATIN SUBSCRIPT SMALL LETTER AzeEzeOzeXzeSCHWAzeHzeKzeLzeMzeNzePzeSzeT"]⟩,
   ⟨8352, ["aEURO-CURRENCY SIGNaCOLON SIGNbRUZEIRO SIGNaFRENCH FRANC SIGNaLIRA SIGNaMILL SIGNaNAIR",
     "A SIGNaPESETA SIGNaRUPEE SIGNaWON SIGNaNEW SHEQEL SIGNaDONG SIGNaEURO SIGNaKIP SIGNaTUGRIK S",
     "IGNaDRACHMA SIGNaGERMAN PENNY SIGNaPESO SIGNaGUARANI SIGNaAUSTRAL SIGNaHRYVNIA SIGNaCEDI SIG",
     "NaLIVRE TOURNOIS SIGNaSPESMILO SIGNaTENGE SIGNaINDIAN RUPEE SIGNaTURKISH LIRA SIGNaNORDIC MA",
     "RK SIGNaMANAT SIGNaRUBLE SIGNaLARI SIGNaBITCOIN SIGNaSOM SIGN"]⟩,
   ⟨8400, ["aCOMBINING LEFT HARPOON ABOVEkRIGHT HARPOON ABOVEkLONG VERTICAL LINE OVERLAYkSHORT VER",
     "TICAL LINE OVERLAYkANTICLOCKWISE ARROW ABOVEkCLOCKWISE ARROW ABOVEkLEFT ARROW ABOVEkRIGHT AR",
     "ROW ABOVEmNG OVERLAYkCLOCKWISE RING OVERLAYkANTICLOCKWISE RING OVERLAYkTHREE DOTS ABOVEkFOUR",
     " DOTS ABOVEkENCLOSING CIRCLEuSQUAREuDIAMONDuCIRCLE BACKSLASHkLEFT RIGHT ARROW ABOVEkENCLOSIN",
     "G SCREENuKEYCAPuUPWARD POINTING TRIANGLEkREVERSE SOLIDUS OVERLAYkDOUBLE VERTICAL STROKE OVER",
     "LAYkANNUITY SYMBOLkTRIPLE UNDERDOTkWIDE BRIDGE ABOVEkLEFTWARDS ARROW OVERLAYlONG DOUBLE SOLI",
     "DUS OVERLAYkRIGHTWARDS HARPOON WITH BARB DOWNWARDSkLEFTWARDS HARPOON WITH BARB DOWNWARDSo AR",
     "ROW BELOWkRIGHT ARROW BELOWkASTERISK ABOVE"]⟩,
   ⟨8448, ["aACCOUNT OFbDDRESSED TO THE SUBJECTaDOUBLE-STRUCK CAPITAL CbEGREE CELSIUSaCENTRE LINE ",
     "SYMBOLbARE OFcDA UNAaEULER CONSTANTaSCRUPLEaDEGREE FAHRENHEITaSCRIPT SMALL GhCAPITAL HaBLACK",
     "-LETTER CAPITAL HaDOUBLE-STRUCK CAPITAL HaPLANCK CONSTANTp OVER TWO PIaSCRIPT CAPITAL IaBLAC",
     "K-LETTER CAPITAL IaSCRIPT CAPITAL LhSMALL LaL B BAR SYMBOLaDOUBLE-STRUCK CAPITAL NaNUMERO SI",
     "GNaSOUND RECORDING COPYRIGHTbCRIPT CAPITAL PaDOUBLE-STRUCK CAPITAL PwQaSCRIPT CAPITAL RaBLAC",
     "K-LETTER CAPITAL RaDOUBLE-STRUCK CAPITAL RaPRESCRIPTION TAKEaRESPONSEaSERVICE MARKaTELEPHONE",
     " SIGNbRADE MARK SIGNaVERSICLEaDOUBLE-STRUCK CAPITAL ZaOUNCE SIGNbHM SIGNaINVERTED OHM SIGNaB",
     "LACK-LETTER CAPITAL ZaTURNED GREEK SMALL LETTER IOTAaKELVIN SIGNaANGSTROM SIGNaSCRIPT CAPITA",
     "L BaBLACK-LETTER CAPITAL CaESTIMATED SYMBOLaSCRIPT SMALL EhCAPITAL EpFaTURNED CAPITAL FaSCRI",
     "PT CAPITAL MhSMALL OaALEF SYMBOLaBET SYMBOLaGIMEL SYMBOLaDALET SYMBOLaINFORMATION SOURCEaROT",
     "ATED CAPITAL QaFACSIMILE SIGNaDOUBLE-STRUCK SMALL PIuGAMMAoCAPITAL GAMMAwPIoN-ARY SUMMATIONa",
     "TURNED SANS-SERIF CAPITAL GzbLaREVERSED SANS-SERIF CAPITAL LaTURNED SANS-SERIF CAPITAL YaDOU",
     "BLE-STRUCK ITALIC CAPITAL DvSMALL DzcEzcIzcJaPROPERTY LINEaTURNED AMPERSANDaPER SIGNaAKTIESE",
     "LSKABaTURNED SMALL FaSYMBOL FOR SAMARITAN SOURCEaVULGAR FRACTION ONE SEVENTHuNINTHuTENTHvHIR",
     "DqTWO THIRDSqONE FIFTHqTWO FIFTHSrHREE FIFTHSqFOUR FIFTHSqONE SIXTHqFIVE SIXTHSqONE EIGHTHqT",
     "HREE EIGHTHSqFIVE EIGHTHSqSEVEN EIGHTHSaFRACTION NUMERATOR ONEaROMAN NUMERAL ONEoTWOpHREEoFO",
     "URpIVEoSIXpEVENoEIGHToNINEoTENoELEVENoTWELVEoFIFTYoONE HUNDREDoFIVE HUNDREDoONE THOUSANDaSMA",
     "LL ROMAN NUMERAL ONEuTWOvHREEuFOURvIVEuSIXvEVENuEIGHTuNINEuTENuELEVENuTWELVEuFIFTYuONE HUNDR",
     "EDuFIVE HUNDREDuONE THOUSANDaROMAN NUMERAL ONE THOUSAND C DoFIVE THOUSANDoTEN THOUSANDoREVER",
     "SED ONE HUNDREDaLATIN SMALL LETTER REVERSED CaROMAN NUMERAL SIX LATE FORMoFIFTY EARLY FORMuT",
     "HOUSANDoONE HUNDRED THOUSANDaVULGAR FRACTION ZERO THIRDSaTURNED DIGIT TWOoHREE"]⟩,
   ⟨8592, ["aLEFTWARDS ARROWaUPWARDS ARROWaRIGHTWARDS ARROWaDOWNWARDS ARROWaLEFT RIGHT ARROWaUP DO",
     "WN ARROWaNORTH WEST ARROWgEAST ARROWaSOUTH EAST ARROWgWEST ARROWaLEFTWARDS ARROW WITH STROKE",
     "aRIGHTWARDS ARROW WITH STROKEaLEFTWARDS WAVE ARROWaRIGHTWARDS WAVE ARROWaLEFTWARDS TWO HEADE",
     "D ARROWaUPWARDS TWO HEADED ARROWaRIGHTWARDS TWO HEADED ARROWaDOWNWARDS TWO HEADED ARROWaLEFT",
     "WARDS ARROW WITH TAILaRIGHTWARDS ARROW WITH TAILaLEFTWARDS ARROW FROM BARaUPWARDS ARROW FROM",
     " BARaRIGHTWARDS ARROW FROM BARaDOWNWARDS ARROW FROM BARaUP DOWN ARROW WITH BASEaLEFTWARDS AR",
     "ROW WITH HOOKaRIGHTWARDS ARROW WITH HOOKaLEFTWARDS ARROW WITH LOOPaRIGHTWARDS ARROW WITH LOO",
     "PaLEFT RIGHT WAVE ARROWlARROW WITH STROKEaDOWNWARDS ZIGZAG ARROWaUPWARDS ARROW WITH TIP LEFT",
     "WARDSxRIGHTWARDSaDOWNWARDS ARROW WITH TIP LEFTWARDSzaRIGHTWARDSaRIGHTWARDS ARROW WITH CORNER",
     " DOWNWARDSaDOWNWARDS ARROW WITH CORNER LEFTWARDSaANTICLOCKWISE TOP SEMICIRCLE ARROWaCLOCKWIS",
     "E TOP SEMICIRCLE ARROWaNORTH WEST ARROW TO LONG BARaLEFTWARDS ARROW TO BAR OVER RIGHTWARDS A",
     "RROW TO BARaANTICLOCKWISE OPEN CIRCLE ARROWaCLOCKWISE OPEN CIRCLE ARROWaLEFTWARDS HARPOON WI",
     "TH BARB UPWARDSzdDOWNWARDSaUPWARDS HARPOON WITH BARB RIGHTWARDSzbLEFTWARDSaRIGHTWARDS HARPOO",
     "N WITH BARB UPWARDSzeDOWNWARDSaDOWNWARDS HARPOON WITH BARB RIGHTWARDSzdLEFTWARDSaRIGHTWARDS ",
     "ARROW OVER LEFTWARDS ARROWaUPWARDS ARROW LEFTWARDS OF DOWNWARDS ARROWaLEFTWARDS ARROW OVER R",
     "IGHTWARDS ARROWkPAIRED ARROWSaUPWARDS PAIRED ARROWSaRIGHTWARDS PAIRED ARROWSaDOWNWARDS PAIRE",
     "D ARROWSaLEFTWARDS HARPOON OVER RIGHTWARDS HARPOONaRIGHTWARDS HARPOON OVER LEFTWARDS HARPOON",
     "aLEFTWARDS DOUBLE ARROW WITH STROKEe RIGHT DOUBLE ARROW WITH STROKEaRIGHTWARDS DOUBLE ARROW ",
     "WITH STROKEaLEFTWARDS DOUBLE ARROWaUPWARDS DOUBLE ARROWaRIGHTWARDS DOUBLE ARROWaDOWNWARDS DO",
     "UBLE ARROWaLEFT RIGHT DOUBLE ARROWaUP DOWN DOUBLE ARROWaNORTH WEST DOUBLE ARROWgEAST DOUBLE ",
     "ARROWaSOUTH EAST DOUBLE ARROWgWEST DOUBLE ARROWaLEFTWARDS TRIPLE ARROWaRIGHTWARDS TRIPLE ARR",
     "OWaLEFTWARDS SQUIGGLE ARROWaRIGHTWARDS SQUIGGLE ARROWaUPWARDS ARROW WITH DOUBLE STROKEaDOWNW",
     "ARDS ARROW WITH DOUBLE STROKEaLEFTWARDS DASHED ARROWaUPWARDS DASHED ARROWaRIGHTWARDS DASHED ",
     "ARROWaDOWNWARDS DASHED ARROWaLEFTWARDS ARROW TO BARaRIGHTWARDS ARROW TO BARaLEFTWARDS WHITE ",
     "ARROWaUPWARDS WHITE ARROWaRIGHTWARDS WHITE ARROWaDOWNWARDS WHITE ARROWaUPWARDS WHITE ARROW F",
     "ROM BARuON PEDESTALzg WITH HORIZONTAL BARzmVERTICAL BARoDOUBLE ARROWzb ON PEDESTALaRIGHTWARD",
     "S WHITE ARROW FROM WALLaNORTH WEST ARROW TO CORNERaSOUTH EAST ARROW TO CORNERaUP DOWN WHITE ",
     "ARROWaRIGHT ARROW WITH SMALL CIRCLEaDOWNWARDS ARROW LEFTWARDS OF UPWARDS ARROWaTHREE RIGHTWA",
     "RDS ARROWSaLEFTWARDS ARROW WITH VERTICAL STROKEaRIGHTWARDS ARROW WITH VERTICAL STROKEaLEFT R",
     "IGHT ARROW WITH VERTICAL STROKEeWARDS ARROW WITH DOUBLE VERTICAL STROKEaRIGHTWARDS ARROW WIT",
     "H DOUBLE VERTICAL STROKEaLEFT RIGHT ARROW WITH DOUBLE VERTICAL STROKEeWARDS OPEN-HEADED ARRO",
     "WaRIGHTWARDS OPEN-HEADED ARROWaLEFT RIGHT OPEN-HEADED ARROWaFOR ALLaCOMPLEMENTaPARTIAL DIFFE",
     "RENTIALaTHERE EXISTSgDOES NOT EXISTaEMPTY SETaINCREMENTaNABLAaELEMENT OFaNOT AN ELEMENT OFaS",
     "MALL ELEMENT OFaCONTAINS AS MEMBERaDOES NOT CONTAIN AS MEMBERaSMALL CONTAINS AS MEMBERaEND O",
     "F PROOFaN-ARY PRODUCTgCOPRODUCTgSUMMATIONaMINUS SIGNf-OR-PLUS SIGNaDOT PLUSbIVISION SLASHaSE",
     "T MINUSaASTERISK OPERATORaRING OPERATORaBULLET OPERATORaSQUARE ROOTaCUBE ROOTaFOURTH ROOTaPR",
     "OPORTIONAL TOaINFINITYaRIGHT ANGLEaANGLEaMEASURED ANGLEaSPHERICAL ANGLEaDIVIDESbOES NOT DIVI",
     "DEaPARALLEL TOaNOT PARALLEL TOaLOGICAL ANDiORaINTERSECTIONaUNIONaINTEGRALaDOUBLE INTEGRALaTR",
     "IPLE INTEGRALaCONTOUR INTEGRALaSURFACE INTEGRALaVOLUME INTEGRALaCLOCKWISE INTEGRALkCONTOUR I",
     "NTEGRALaANTICLOCKWISE CONTOUR INTEGRALaTHEREFOREaBECAUSEaRATIOaPROPORTIONaDOT MINUSaEXCESSaG",
     "EOMETRIC PROPORTIONaHOMOTHETICaTILDE OPERATORaREVERSED TILDEaINVERTED LAZY SaSINE WAVEaWREAT",
     "H PRODUCTaNOT TILDEaMINUS TILDEaASYMPTOTICALLY EQUAL TOaNOT ASYMPTOTICALLY EQUAL TOaAPPROXIM",
     "ATELY EQUAL TOoBUT NOT ACTUALLY EQUAL TOaNEITHER APPROXIMATELY NOR ACTUALLY EQUAL TOaALMOST ",
     "EQUAL TOaNOT ALMOST EQUAL TOaALMOST EQUAL OR EQUAL TOaTRIPLE TILDEaALL EQUAL TOaEQUIVALENT T",
     "OaGEOMETRICALLY EQUIVALENT TOaDIFFERENCE BETWEENaAPPROACHES THE LIMITaGEOMETRICALLY EQUAL TO",
     "aAPPROXIMATELY EQUAL TO OR THE IMAGE OFaIMAGE OF OR APPROXIMATELY EQUAL TOaCOLON EQUALSaEQUA",
     "LS COLONaRING IN EQUAL TOfEQUAL TOaCORRESPONDS TOaESTIMATESbQUIANGULAR TOaSTAR EQUALSaDELTA ",
     "EQUAL TOaEQUAL TO BY DEFINITIONaMEASURED BYaQUESTIONED EQUAL TOaNOT EQUAL TOaIDENTICAL TOaNO",
     "T IDENTICAL TOaSTRICTLY EQUIVALENT TOaLESS-THAN OR EQUAL TOaGREATER-THAN OR EQUAL TOaLESS-TH",
     "AN OVER EQUAL TOaGREATER-THAN OVER EQUAL TOaLESS-THAN BUT NOT EQUAL TOaGREATER-THAN BUT NOT ",
     "EQUAL TOaMUCH LESS-THANfGREATER-THANaBETWEENaNOT EQUIVALENT TOeLESS-THANeGREATER-THANbEITHER",
     " LESS-THAN NOR EQUAL TOiGREATER-THAN NOR EQUAL TOaLESS-THAN OR EQUIVALENT TOaGREATER-THAN OR",
     " EQUIVALENT TOaNEITHER LESS-THAN NOR EQUIVALENT TOiGREATER-THAN NOR EQUIVALENT TOaLESS-THAN ",
     "OR GREATER-THANaGREATER-THAN OR LESS-THANaNEITHER LESS-THAN NOR GREATER-THANiGREATER-THAN NO",
     "R LESS-THANaPRECEDESaSUCCEEDSaPRECEDES OR EQUAL TOaSUCCEEDS OR EQUAL TOaPRECEDES OR EQUIVALE",
     "NT TOaSUCCEEDS OR EQUIVALENT TOaDOES NOT PRECEDEjSUCCEEDaSUBSET OFcPERSET OFaNOT A SUBSET OF",
     "iPERSET OFaSUBSET OF OR EQUAL TOcPERSET OF OR EQUAL TOaNEITHER A SUBSET OF NOR EQUAL TOmPERS",
     "ET OF NOR EQUAL TOaSUBSET OF WITH NOT EQUAL TOcPERSET OF WITH NOT EQUAL TOaMULTISETi MULTIPL",
     "ICATIONjUNIONaSQUARE IMAGE OFhORIGINAL OFhIMAGE OF OR EQUAL TOhORIGINAL OF OR EQUAL TOhCAPiU",
     "PaCIRCLED PLUSiMINUSiTIMESiDIVISION SLASHjOT OPERATORiRING OPERATORiASTERISK OPERATORiEQUALS",
     "iDASHaSQUARED PLUSiMINUSiTIMESiDOT OPERATORaRIGHT TACKaLEFT TACKaDOWN TACKaUP TACKaASSERTION",
     "aMODELSaTRUEaFORCESaTRIPLE VERTICAL BAR RIGHT TURNSTILEaDOUBLE VERTICAL BAR DOUBLE RIGHT TUR",
     "NSTILEcES NOT PROVEaNOT TRUEaDOES NOT FORCEaNEGATED DOUBLE VERTICAL BAR DOUBLE RIGHT TURNSTI",
     "LEaPRECEDES UNDER RELATIONaSUCCEEDS UNDER RELATIONaNORMAL SUBGROUP OFaCONTAINS AS NORMAL SUB",
     "GROUPaNORMAL SUBGROUP OF OR EQUAL TOaCONTAINS AS NORMAL SUBGROUP OR EQUAL TOaORIGINAL OFaIMA",
     "GE OFaMULTIMAPaHERMITIAN CONJUGATE MATRIXaINTERCALATEaXORaNANDbORaRIGHT ANGLE WITH ARCgTRIAN",
     "GLEaN-ARY LOGICAL ANDoORgINTERSECTIONgUNIONaDIAMOND OPERATORbOT OPERATORaSTAR OPERATORaDIVIS",
     "ION TIMESaBOWTIEaLEFT NORMAL FACTOR SEMIDIRECT PRODUCTaRIGHT NORMAL FACTOR SEMIDIRECT PRODUC",
     "TaLEFT SEMIDIRECT PRODUCTaRIGHT SEMIDIRECT PRODUCTbEVERSED TILDE EQUALSaCURLY LOGICAL ORoAND",
     "aDOUBLE SUBSETjPERSEThINTERSECTIONhUNIONaPITCHFORKaEQUAL AND PARALLEL TOaLESS-THAN WITH DOTa",
     "GREATER-THAN WITH DOTaVERY MUCH LESS-THANkGREATER-THANaLESS-THAN EQUAL TO OR GREATER-THANaGR",
     "EATER-THAN EQUAL TO OR LESS-THANaEQUAL TO OR LESS-THANmGREATER-THANmPRECEDESmSUCCEEDSaDOES N",
     "OT PRECEDE OR EQUALjSUCCEED OR EQUALaNOT SQUARE IMAGE OF OR EQUAL TOlORIGINAL OF OR EQUAL TO",
     "aSQUARE IMAGE OF OR NOT EQUAL TOhORIGINAL OF OR NOT EQUAL TOaLESS-THAN BUT NOT EQUIVALENT TO",
     "aGREATER-THAN BUT NOT EQUIVALENT TOaPRECEDES BUT NOT EQUIVALENT TOaSUCCEEDS BUT NOT EQUIVALE",
     "NT TOaNOT NORMAL SUBGROUP OFaDOES NOT CONTAIN AS NORMAL SUBGROUPaNOT NORMAL SUBGROUP OF OR E",
     "QUAL TOaDOES NOT CONTAIN AS NORMAL SUBGROUP OR EQUALaVERTICAL ELLIPSISaMIDLINE HORIZONTAL EL",
     "LIPSISaUP RIGHT DIAGONAL ELLIPSISaDOWN RIGHT DIAGONAL ELLIPSISaELEMENT OF WITH LONG HORIZONT",
     "AL STROKEqVERTICAL BAR AT END OF HORIZONTAL STROKEaSMALL ELEMENT OF WITH VERTICAL BAR AT END",
     " OF HORIZONTAL STROKEaELEMENT OF WITH DOT ABOVEqOVERBARaSMALL ELEMENT OF WITH OVERBARaELEMEN",
     "T OF WITH UNDERBARqTWO HORIZONTAL STROKESaCONTAINS WITH LONG HORIZONTAL STROKEoVERTICAL BAR ",
     "AT END OF HORIZONTAL STROKEaSMALL CONTAINS WITH VERTICAL BAR AT END OF HORIZONTAL STROKEaCON",
     "TAINS WITH OVERBARaSMALL CONTAINS WITH OVERBARaZ NOTATION BAG MEMBERSHIPaDIAMETER SIGNaELECT",
     "RIC ARROWaHOUSEaUP ARROWHEADaDOWN ARROWHEADaPROJECTIVEbERSPECTIVEaWAVY LINEaLEFT CEILINGaRIG",
     "HT CEILINGaLEFT FLOORaRIGHT FLOORaBOTTOM RIGHT CROPhLEFT CROPaTOP RIGHT CROPeLEFT CROPaREVER",
     "SED NOT SIGNaSQUARE LOZENGEaARCaSEGMENTcCTORaTELEPHONE RECORDERaPOSITION INDICATORaVIEWDATA ",
     "SQUAREaPLACE OF INTEREST SIGNaTURNED NOT SIGNaWATCHaHOURGLASSaTOP LEFT CORNEReRIGHT CORNERaB",
     "OTTOM LEFT CORNERhRIGHT CORNERaTOP HALF INTEGRALaBOTTOM HALF INTEGRALaFROWNaSMILEaUP ARROWHE",
     "AD BETWEEN TWO HORIZONTAL BARSaOPTION KEYaERASE TO THE RIGHTaX IN A RECTANGLE BOXaKEYBOARDaL",
     "EFT-POINTING ANGLE BRACKETaRIGHT-POINTING ANGLE BRACKETaERASE TO THE LEFTaBENZENE RINGaCYLIN",
     "DRICITYaALL AROUND-PROFILEaSYMMETRYaTOTAL RUNOUTaDIMENSION ORIGINaCONICAL TAPERaSLOPEaCOUNTE",
     "RBOREhSINKaAPL FUNCTIONAL SYMBOL I-BEAMwSQUISH QUADwQUAD EQUALzcDIVIDEzeAMONDzcJOTzcCIRCLEwC",
     "IRCLE STILEzeJOTwSLASH BARwBACKSLASH BARwQUAD SLASHzcBACKSLASHzcLESS-THANzcGREATER-THANwLEFT",
     "WARDS VANEwRIGHTWARDS VANEwQUAD LEFTWARDS ARROWzcRIGHTWARDS ARROWwCIRCLE BACKSLASHwDOWN TACK",
     " UNDERBARxELTA STILEwQUAD DOWN CARETzdELTAwDOWN TACK JOTwUPWARDS VANEwQUAD UPWARDS ARROWwUP ",
     "TACK OVERBARwDEL STILEwQUAD UP CARETzcDELwUP TACK JOTwDOWNWARDS VANEwQUAD DOWNWARDS ARROWyOT",
     "E UNDERBARwDELTA UNDERBARxIAMOND UNDERBARwJOT UNDERBARwCIRCLE UNDERBARwUP SHOE JOTwQUOTE QUA",
     "DwCIRCLE STARwQUAD COLONwUP TACK DIAERESISwDEL DIAERESISwSTAR DIAERESISwJOT DIAERESISwCIRCLE",
     " DIAERESISwDOWN SHOE STILEwLEFT SHOE STILEwTILDE DIAERESISwGREATER-THAN DIAERESISwCOMMA BARw",
     "DEL TILDEwZILDEwSTILE TILDExEMICOLON UNDERBARwQUAD NOT EQUALzcQUESTIONwDOWN CARET TILDEwUP C",
     "ARET TILDEwIOTAwRHOwOMEGAwALPHA UNDERBARwEPSILON UNDERBARwIOTA UNDERBARwOMEGA UNDERBARwALPHA",
     "aNOT CHECK MARKaRIGHT ANGLE WITH DOWNWARDS ZIGZAG ARROWaSHOULDERED OPEN BOXaBELL SYMBOLaVERT",
     "ICAL LINE WITH MIDDLE DOTaINSERTION SYMBOLaCONTINUOUS UNDERLINE SYMBOLaDISCONTINUOUS UNDERLI",
     "NE SYMBOLaEMPHASIS SYMBOLaCOMPOSITION SYMBOLaWHITE SQUARE WITH CENTRE VERTICAL LINEaENTER SY",
     "MBOLaALTERNATIVE KEY SYMBOLaHELM SYMBOLaCIRCLED HORIZONTAL BAR WITH NOTCHiTRIANGLE DOWNaBROK",
     "EN CIRCLE WITH NORTHWEST ARROWaUNDO SYMBOLaMONOSTABLE SYMBOLaHYSTERESIS SYMBOLaOPEN-CIRCUIT-",
     "OUTPUT H-TYPE SYMBOLuL-TYPE SYMBOLaPASSIVE-PULL-DOWN-OUTPUT SYMBOLnUP-OUTPUT SYMBOLaDIRECT C",
     "URRENT SYMBOL FORM TWOaSOFTWARE-FUNCTION SYMBOLaAPL FUNCTIONAL SYMBOL QUADaDECIMAL SEPARATOR",
     " KEY SYMBOLaPREVIOUS PAGEaNEXT PAGEaPRINT SCREEN SYMBOLaCLEAR SCREEN SYMBOLaLEFT PARENTHESIS",
     " UPPER HOOKrEXTENSIONrLOWER HOOKaRIGHT PARENTHESIS UPPER HOOKsEXTENSIONsLOWER HOOKaLEFT SQUA",
     "RE BRACKET UPPER CORNERuEXTENSIONuLOWER CORNERaRIGHT SQUARE BRACKET UPPER CORNERvEXTENSIONvL",
     "OWER CORNERaLEFT CURLY BRACKET UPPER HOOKtMIDDLE PIECEtLOWER HOOKaCURLY BRACKET EXTENSIONaRI",
     "GHT CURLY BRACKET UPPER HOOKuMIDDLE PIECEuLOWER HOOKaINTEGRAL EXTENSIONaHORIZONTAL LINE EXTE",
     "NSIONaUPPER LEFT OR LOWER RIGHT CURLY BRACKET SECTIONgRIGHT OR LOWER LEFT CURLY BRACKET SECT",
     "IONaSUMMATION TOPkBOTTOMaTOP SQUARE BRACKETaBOTTOM SQUARE BRACKETv OVER TOP SQUARE BRACKETaR",
     "ADICAL SYMBOL BOTTOMaLEFT VERTICAL BOX LINEaRIGHT VERTICAL BOX LINEaHORIZONTAL SCAN LINE-1v3",
     "v7v9aDENTISTRY SYMBOL LIGHT VERTICAL AND TOP RIGHTzlBOTTOM RIGHTzhWITH CIRCLExDOWN AND HORIZ",
     "ONTAL WITH CIRCLExUP AND HORIZONTAL WITH CIRCLExVERTICAL WITH TRIANGLExDOWN AND HORIZONTAL W",
     "ITH TRIANGLExUP AND HORIZONTAL WITH TRIANGLExVERTICAL AND WAVExDOWN AND HORIZONTAL WITH WAVE",
     "xUP AND HORIZONTAL WITH WAVExDOWN AND HORIZONTALxUP AND HORIZONTALxVERTICAL AND TOP LEFTzlBO",
     "TTOM LEFTaSQUARE FOOTaRETURN SYMBOLaEJECT SYMBOLaVERTICAL LINE EXTENSIONaMETRICAL BREVEjLONG",
     " OVER SHORTjSHORT OVER LONGjLONG OVER TWO SHORTSjTWO SHORTS OVER LONGuJOINEDkRISEMEkETRASEME",
     "jPENTASEMEaEARTH GROUNDaFUSEaTOP PARENTHESISaBOTTOM PARENTHESISaTOP CURLY BRACKETaBOTTOM CUR",
     "LY BRACKETaTOP TORTOISE SHELL BRACKETaBOTTOM TORTOISE SHELL BRACKETaWHITE TRAPEZIUMaBENZENE ",
     "RING WITH CIRCLEaSTRAIGHTNESSaFLATNESSaAC CURRENTaELECTRICAL INTERSECTIONaDECIMAL EXPONENT S",
     "YMBOLaBLACK RIGHT-POINTING DOUBLE TRIANGLEgLEFT-POINTING DOUBLE TRIANGLEgUP-POINTING DOUBLE ",
     "TRIANGLEgDOWN-POINTING DOUBLE TRIANGLEgRIGHT-POINTING DOUBLE TRIANGLE WITH VERTICAL BARgLEFT",
     "-POINTING DOUBLE TRIANGLE WITH VERTICAL BARgRIGHT-POINTING TRIANGLE WITH DOUBLE VERTICAL BAR",
     "aALARM CLOCKaSTOPWATCHaTIMER CLOCKaHOURGLASS WITH FLOWING SANDaBLACK MEDIUM LEFT-POINTING TR",
     "IANGLEnRIGHT-POINTING TRIANGLEnUP-POINTING TRIANGLEnDOWN-POINTING TRIANGLEaDOUBLE VERTICAL B",
     "ARaBLACK SQUARE FOR STOPgCIRCLE FOR RECORDaPOWER SYMBOLgON-OFF SYMBOLi SYMBOLgSLEEP SYMBOLaO",
     "BSERVER EYE SYMBOLaSYMBOL FOR NULLlSTART OF HEADINGuTEXTlEND OF TEXTtRANSMISSIONnQUIRYlACKNO",
     "WLEDGElBELLmACKSPACElHORIZONTAL TABULATIONlLINE FEEDlVERTICAL TABULATIONlFORM FEEDlCARRIAGE ",
     "RETURNlSHIFT OUTrINlDATA LINK ESCAPEmEVICE CONTROL ONEzbTWOzcHREEzbFOURlNEGATIVE ACKNOWLEDGE",
     "lSYNCHRONOUS IDLElEND OF TRANSMISSION BLOCKlCANCELlEND OF MEDIUMlSUBSTITUTElESCAPElFILE SEPA",
     "RATORlGROUP SEPARATORlRECORD SEPARATORlUNIT SEPARATORlSPACElDELETEaBLANK SYMBOLaOPEN BOXaSYM",
     "BOL FOR NEWLINElDELETE FORM TWOlSUBSTITUTE FORM TWO"]⟩,
   ⟨9280, ["aOCR HOOKeCHAIReFORKeINVERTED FORKeBELT BUCKLEfOW TIEfRANCH BANK IDENTIFICATIONeAMOUNT",
     " OF CHECKeDASHeCUSTOMER ACCOUNT NUMBEReDOUBLE BACKSLASH"]⟩,
   ⟨9312, ["aCIRCLED DIGIT ONEoTWOpHREEoFOURpIVEoSIXpEVENoEIGHToNINEiNUMBER TENpELEVENpTWELVEqHIRT",
     "EENpFOURTEENqIFTEENpSIXTEENqEVENTEENpEIGHTEENpNINETEENpTWENTYaPARENTHESIZED DIGIT ONEuTWOvHR",
     "EEuFOURvIVEuSIXvEVENuEIGHTuNINEoNUMBER TENvELEVENvTWELVEwHIRTEENvFOURTEENwIFTEENvSIXTEENwEVE",
     "NTEENvEIGHTEENvNINETEENvTWENTYaDIGIT ONE FULL STOPgTWO FULL STOPhHREE FULL STOPgFOUR FULL ST",
     "OPhIVE FULL STOPgSIX FULL STOPhEVEN FULL STOPgEIGHT FULL STOPgNINE FULL STOPaNUMBER TEN FULL",
     " STOPhELEVEN FULL STOPhTWELVE FULL STOPiHIRTEEN FULL STOPhFOURTEEN FULL STOPiIFTEEN FULL STO",
     "PhSIXTEEN FULL STOPiEVENTEEN FULL STOPhEIGHTEEN FULL STOPhNINETEEN FULL STOPhTWENTY FULL STO",
     "PaPARENTHESIZED LATIN SMALL LETTER AziBziCziDziEziFziGziHziIziJziKziLziMziNziOziPziQziRziSzi",
     "TziUziVziWziXziYziZaCIRCLED LATIN CAPITAL LETTER AzeBzeCzeDzeEzeFzeGzeHzeIzeJzeKzeLzeMzeNzeO",
     "zePzeQzeRzeSzeTzeUzeVzeWzeXzeYzeZoSMALL LETTER AzcBzcCzcDzcEzcFzcGzcHzcIzcJzcKzcLzcMzcNzcOzc",
     "PzcQzcRzcSzcTzcUzcVzcWzcXzcYzcZiDIGIT ZEROaNEGATIVE CIRCLED NUMBER ELEVENyTWELVEzaHIRTEENyFO",
     "URTEENzaIFTEENySIXTEENzaEVENTEENyEIGHTEENyNINETEENyTWENTYaDOUBLE CIRCLED DIGIT ONEvTWOwHREEv",
     "FOURwIVEvSIXwEVENvEIGHTvNINEpNUMBER TENaNEGATIVE CIRCLED DIGIT ZEROaBOX DRAWINGS LIGHT HORIZ",
     "ONTALnHEAVY HORIZONTALnLIGHT VERTICALnHEAVY VERTICALnLIGHT TRIPLE DASH HORIZONTALnHEAVY TRIP",
     "LE DASH HORIZONTALnLIGHT TRIPLE DASH VERTICALnHEAVY TRIPLE DASH VERTICALnLIGHT QUADRUPLE DAS",
     "H HORIZONTALnHEAVY QUADRUPLE DASH HORIZONTALnLIGHT QUADRUPLE DASH VERTICALnHEAVY QUADRUPLE D",
     "ASH VERTICALnLIGHT DOWN AND RIGHTnDOWN LIGHT AND RIGHT HEAVYsHEAVY AND RIGHT LIGHTnHEAVY DOW",
     "N AND RIGHTnLIGHT DOWN AND LEFTnDOWN LIGHT AND LEFT HEAVYsHEAVY AND LEFT LIGHTnHEAVY DOWN AN",
     "D LEFTnLIGHT UP AND RIGHTnUP LIGHT AND RIGHT HEAVYqHEAVY AND RIGHT LIGHTnHEAVY UP AND RIGHTn",
     "LIGHT UP AND LEFTnUP LIGHT AND LEFT HEAVYqHEAVY AND LEFT LIGHTnHEAVY UP AND LEFTnLIGHT VERTI",
     "CAL AND RIGHTnVERTICAL LIGHT AND RIGHT HEAVYnUP HEAVY AND RIGHT DOWN LIGHTnDOWN HEAVY AND RI",
     "GHT UP LIGHTnVERTICAL HEAVY AND RIGHT LIGHTnDOWN LIGHT AND RIGHT UP HEAVYnUP LIGHT AND RIGHT",
     " DOWN HEAVYnHEAVY VERTICAL AND RIGHTnLIGHT VERTICAL AND LEFTnVERTICAL LIGHT AND LEFT HEAVYnU",
     "P HEAVY AND LEFT DOWN LIGHTnDOWN HEAVY AND LEFT UP LIGHTnVERTICAL HEAVY AND LEFT LIGHTnDOWN ",
     "LIGHT AND LEFT UP HEAVYnUP LIGHT AND LEFT DOWN HEAVYnHEAVY VERTICAL AND LEFTnLIGHT DOWN AND ",
     "HORIZONTALoEFT HEAVY AND RIGHT DOWN LIGHTnRIGHT HEAVY AND LEFT DOWN LIGHTnDOWN LIGHT AND HOR",
     "IZONTAL HEAVYsHEAVY AND HORIZONTAL LIGHTnRIGHT LIGHT AND LEFT DOWN HEAVYnLEFT LIGHT AND RIGH",
     "T DOWN HEAVYnHEAVY DOWN AND HORIZONTALnLIGHT UP AND HORIZONTALoEFT HEAVY AND RIGHT UP LIGHTn",
     "RIGHT HEAVY AND LEFT UP LIGHTnUP LIGHT AND HORIZONTAL HEAVYqHEAVY AND HORIZONTAL LIGHTnRIGHT",
     " LIGHT AND LEFT UP HEAVYnLEFT LIGHT AND RIGHT UP HEAVYnHEAVY UP AND HORIZONTALnLIGHT VERTICA",
     "L AND HORIZONTALoEFT HEAVY AND RIGHT VERTICAL LIGHTnRIGHT HEAVY AND LEFT VERTICAL LIGHTnVERT",
     "ICAL LIGHT AND HORIZONTAL HEAVYnUP HEAVY AND DOWN HORIZONTAL LIGHTnDOWN HEAVY AND UP HORIZON",
     "TAL LIGHTnVERTICAL HEAVY AND HORIZONTAL LIGHTnLEFT UP HEAVY AND RIGHT DOWN LIGHTnRIGHT UP HE",
     "AVY AND LEFT DOWN LIGHTnLEFT DOWN HEAVY AND RIGHT UP LIGHTnRIGHT DOWN HEAVY AND LEFT UP LIGH",
     "TnDOWN LIGHT AND UP HORIZONTAL HEAVYnUP LIGHT AND DOWN HORIZONTAL HEAVYnRIGHT LIGHT AND LEFT",
     " VERTICAL HEAVYnLEFT LIGHT AND RIGHT VERTICAL HEAVYnHEAVY VERTICAL AND HORIZONTALnLIGHT DOUB",
     "LE DASH HORIZONTALnHEAVY DOUBLE DASH HORIZONTALnLIGHT DOUBLE DASH VERTICALnHEAVY DOUBLE DASH",
     " VERTICALnDOUBLE HORIZONTALuVERTICALpWN SINGLE AND RIGHT DOUBLEsDOUBLE AND RIGHT SINGLEpUBLE",
     " DOWN AND RIGHTpWN SINGLE AND LEFT DOUBLEsDOUBLE AND LEFT SINGLEpUBLE DOWN AND LEFTnUP SINGL",
     "E AND RIGHT DOUBLEqDOUBLE AND RIGHT SINGLEnDOUBLE UP AND RIGHTnUP SINGLE AND LEFT DOUBLEqDOU",
     "BLE AND LEFT SINGLEnDOUBLE UP AND LEFTnVERTICAL SINGLE AND RIGHT DOUBLEwDOUBLE AND RIGHT SIN",
     "GLEnDOUBLE VERTICAL AND RIGHTnVERTICAL SINGLE AND LEFT DOUBLEwDOUBLE AND LEFT SINGLEnDOUBLE ",
     "VERTICAL AND LEFTpWN SINGLE AND HORIZONTAL DOUBLEsDOUBLE AND HORIZONTAL SINGLEpUBLE DOWN AND",
     " HORIZONTALnUP SINGLE AND HORIZONTAL DOUBLEqDOUBLE AND HORIZONTAL SINGLEnDOUBLE UP AND HORIZ",
     "ONTALnVERTICAL SINGLE AND HORIZONTAL DOUBLEwDOUBLE AND HORIZONTAL SINGLEnDOUBLE VERTICAL AND",
     " HORIZONTALnLIGHT ARC DOWN AND RIGHTzhLEFTxUP AND LEFTzfRIGHTtDIAGONAL UPPER RIGHT TO LOWER ",
     "LEFTzjLEFT TO LOWER RIGHTzdCROSStLEFTtUPtRIGHTtDOWNnHEAVY LEFTtUPtRIGHTtDOWNnLIGHT LEFT AND ",
     "HEAVY RIGHTtUP AND HEAVY DOWNnHEAVY LEFT AND LIGHT RIGHTtUP AND LIGHT DOWNaUPPER HALF BLOCKa",
     "LOWER ONE EIGHTH BLOCKkQUARTER BLOCKgTHREE EIGHTHS BLOCKgHALF BLOCKgFIVE EIGHTHS BLOCKgTHREE",
     " QUARTERS BLOCKgSEVEN EIGHTHS BLOCKaFULL BLOCKaLEFT SEVEN EIGHTHS BLOCKfTHREE QUARTERS BLOCK",
     "fFIVE EIGHTHS BLOCKfHALF BLOCKfTHREE EIGHTHS BLOCKfONE QUARTER BLOCKjEIGHTH BLOCKaRIGHT HALF",
     " BLOCKaLIGHT SHADEaMEDIUM SHADEaDARK SHADEaUPPER ONE EIGHTH BLOCKaRIGHT ONE EIGHTH BLOCKaQUA",
     "DRANT LOWER LEFTpRIGHTjUPPER LEFTt AND LOWER LEFT AND LOWER RIGHTzfRIGHTyUPPER RIGHT AND LOW",
     "ER LEFTzvRIGHTpRIGHTu AND LOWER LEFTzk AND LOWER RIGHTaBLACK SQUAREaWHITE SQUAREm WITH ROUND",
     "ED CORNERSnCONTAINING BLACK SMALL SQUAREaSQUARE WITH HORIZONTAL FILLmVERTICAL FILLmORTHOGONA",
     "L CROSSHATCH FILLmUPPER LEFT TO LOWER RIGHT FILLsRIGHT TO LOWER LEFT FILLmDIAGONAL CROSSHATC",
     "H FILLaBLACK SMALL SQUAREaWHITE SMALL SQUAREaBLACK RECTANGLEaWHITE RECTANGLEaBLACK VERTICAL ",
     "RECTANGLEaWHITE VERTICAL RECTANGLEaBLACK PARALLELOGRAMaWHITE PARALLELOGRAMaBLACK UP-POINTING",
     " TRIANGLEaWHITE UP-POINTING TRIANGLEaBLACK UP-POINTING SMALL TRIANGLEaWHITE UP-POINTING SMAL",
     "L TRIANGLEaBLACK RIGHT-POINTING TRIANGLEaWHITE RIGHT-POINTING TRIANGLEaBLACK RIGHT-POINTING ",
     "SMALL TRIANGLEaWHITE RIGHT-POINTING SMALL TRIANGLEaBLACK RIGHT-POINTING POINTERaWHITE RIGHT-",
     "POINTING POINTERaBLACK DOWN-POINTING TRIANGLEaWHITE DOWN-POINTING TRIANGLEaBLACK DOWN-POINTI",
     "NG SMALL TRIANGLEaWHITE DOWN-POINTING SMALL TRIANGLEaBLACK LEFT-POINTING TRIANGLEaWHITE LEFT",
     "-POINTING TRIANGLEaBLACK LEFT-POINTING SMALL TRIANGLEaWHITE LEFT-POINTING SMALL TRIANGLEaBLA",
     "CK LEFT-POINTING POINTERaWHITE LEFT-POINTING POINTERaBLACK DIAMONDaWHITE DIAMONDn CONTAINING",
     " BLACK SMALL DIAMONDaFISHEYEaLOZENGEaWHITE CIRCLEaDOTTED CIRCLEaCIRCLE WITH VERTICAL FILLaBU",
     "LLSEYEbLACK CIRCLEaCIRCLE WITH LEFT HALF BLACKmRIGHT HALF BLACKmLOWER HALF BLACKmUPPER HALF ",
     "BLACKsRIGHT QUADRANT BLACKmALL BUT UPPER LEFT QUADRANT BLACKaLEFT HALF BLACK CIRCLEaRIGHT HA",
     "LF BLACK CIRCLEaINVERSE BULLETiWHITE CIRCLEaUPPER HALF INVERSE WHITE CIRCLEaLOWER HALF INVER",
     "SE WHITE CIRCLEaUPPER LEFT QUADRANT CIRCULAR ARCgRIGHT QUADRANT CIRCULAR ARCaLOWER RIGHT QUA",
     "DRANT CIRCULAR ARCgLEFT QUADRANT CIRCULAR ARCaUPPER HALF CIRCLEaLOWER HALF CIRCLEaBLACK LOWE",
     "R RIGHT TRIANGLEmLEFT TRIANGLEgUPPER LEFT TRIANGLEmRIGHT TRIANGLEaWHITE BULLETaSQUARE WITH L",
     "EFT HALF BLACKmRIGHT HALF BLACKmUPPER LEFT DIAGONAL HALF BLACKmLOWER RIGHT DIAGONAL HALF BLA",
     "CKaWHITE SQUARE WITH VERTICAL BISECTING LINEgUP-POINTING TRIANGLE WITH DOTaUP-POINTING TRIAN",
     "GLE WITH LEFT HALF BLACKzbRIGHT HALF BLACKaLARGE CIRCLEaWHITE SQUARE WITH UPPER LEFT QUADRAN",
     "TsLOWER LEFT QUADRANTyRIGHT QUADRANTsUPPER RIGHT QUADRANTgCIRCLE WITH UPPER LEFT QUADRANTsLO",
     "WER LEFT QUADRANTyRIGHT QUADRANTsUPPER RIGHT QUADRANTaUPPER LEFT TRIANGLEgRIGHT TRIANGLEaLOW",
     "ER LEFT TRIANGLEaWHITE MEDIUM SQUAREaBLACK MEDIUM SQUAREaWHITE MEDIUM SMALL SQUAREaBLACK MED",
     "IUM SMALL SQUAREaLOWER RIGHT TRIANGLEaBLACK SUN WITH RAYSaCLOUDaUMBRELLAaSNOWMANaCOMETaBLACK",
     " STARaWHITE STARaLIGHTNINGaTHUNDERSTORMaSUNaASCENDING NODEaDESCENDING NODEaCONJUNCTIONaOPPOS",
     "ITIONaBLACK TELEPHONEaWHITE TELEPHONEaBALLOT BOXk WITH CHECKqXaSALTIREaUMBRELLA WITH RAIN DR",
     "OPSaHOT BEVERAGEaWHITE SHOGI PIECEaBLACK SHOGI PIECEaSHAMROCKaREVERSED ROTATED FLORAL HEART ",
     "BULLETaBLACK LEFT POINTING INDEXgRIGHT POINTING INDEXaWHITE LEFT POINTING INDEXgUP POINTING ",
     "INDEXgRIGHT POINTING INDEXgDOWN POINTING INDEXaSKULL AND CROSSBONESaCAUTION SIGNaRADIOACTIVE",
     " SIGNaBIOHAZARD SIGNaCADUCEUSaANKHaORTHODOX CROSSaCHI RHObROSS OF LORRAINEjJERUSALEMaSTAR AN",
     "D CRESCENTaFARSI SYMBOLaADI SHAKTIaHAMMER AND SICKLEaPEACE SYMBOLaYIN YANGaTRIGRAM FOR HEAVE",
     "NmLAKEmFIREmTHUNDERmWINDnATERmMOUNTAINmEARTHaWHEEL OF DHARMAcITE FROWNING FACEgSMILING FACEa",
     "BLACK SMILING FACEaWHITE SUN WITH RAYSaFIRST QUARTER MOONaLAST QUARTER MOONaMERCURYaFEMALE S",
     "IGNaEARTHaMALE SIGNaJUPITERaSATURNaURANUSaNEPTUNEaPLUTOaARIESaTAURUSaGEMINIaCANCERaLEOaVIRGO",
     "aLIBRAaSCORPIUSbAGITTARIUSaCAPRICORNaAQUARIUSaPISCESaWHITE CHESS KINGmQUEENmROOKmBISHOPmKNIG",
     "HTmPAWNaBLACK CHESS KINGmQUEENmROOKmBISHOPmKNIGHTmPAWNgSPADE SUITaWHITE HEART SUITgDIAMOND S",
     "UITaBLACK CLUB SUITaWHITE SPADE SUITaBLACK HEART SUITgDIAMOND SUITaWHITE CLUB SUITaHOT SPRIN",
     "GSaQUARTER NOTEaEIGHTH NOTEaBEAMED EIGHTH NOTEShSIXTEENTH NOTESaMUSIC FLAT SIGNgNATURAL SIGN",
     "gSHARP SIGNaWEST SYRIAC CROSSaEAST SYRIAC CROSSaUNIVERSAL RECYCLING SYMBOLaRECYCLING SYMBOL ",
     "FOR TYPE-1 PLASTICSzb2 PLASTICSzb3 PLASTICSzb4 PLASTICSzb5 PLASTICSzb6 PLASTICSzb7 PLASTICSv",
     "GENERIC MATERIALSaBLACK UNIVERSAL RECYCLING SYMBOLaRECYCLED PAPER SYMBOLaPARTIALLY-RECYCLED ",
     "PAPER SYMBOLbERMANENT PAPER SIGNaWHEELCHAIR SYMBOLaDIE FACE-1j2j3j4j5j6aWHITE CIRCLE WITH DO",
     "T RIGHTsTWO DOTSaBLACK CIRCLE WITH WHITE DOT RIGHTsTWO WHITE DOTSaMONOGRAM FOR YANGoINaDIGRA",
     "M FOR GREATER YANGlLESSER YINtANGlGREATER YINaWHITE FLAGaBLACK FLAGaHAMMER AND PICKaANCHORaC",
     "ROSSED SWORDSaSTAFF OF AESCULAPIUSbCALESaALEMBICaFLOWERaGEARaSTAFF OF HERMESaATOM SYMBOLaFLE",
     "UR-DE-LISaOUTLINED WHITE STARaTHREE LINES CONVERGING RIGHTxLEFTaWARNING SIGNaHIGH VOLTAGE SI",
     "GNaDOUBLED FEMALE SIGNiMALE SIGNaINTERLOCKED FEMALE AND MALE SIGNaMALE AND FEMALE SIGNfWITH ",
     "STROKE SIGNrAND MALE AND FEMALE SIGNaVERTICAL MALE WITH STROKE SIGNaHORIZONTAL MALE WITH STR",
     "OKE SIGNaMEDIUM WHITE CIRCLEhBLACK CIRCLEhSMALL WHITE CIRCLEbARRIAGE SYMBOLaDIVORCE SYMBOLaU",
     "NMARRIED PARTNERSHIP SYMBOLaCOFFINaFUNERAL URNaNEUTERaCERESaPALLASaJUNOaVESTAaCHIRONaBLACK M",
     "OON LILITHaSEXTILEcMISEXTILEaQUINCUNXaSESQUIQUADRATEbOCCER BALLaBASEBALLaSQUARED KEYaWHITE D",
     "RAUGHTS MANpKINGaBLACK DRAUGHTS MANpKINGaSNOWMAN WITHOUT SNOWbUN BEHIND CLOUDaRAINaBLACK SNO",
     "WMANaTHUNDER CLOUD AND RAINbURNED WHITE SHOGI PIECEhBLACK SHOGI PIECEaWHITE DIAMOND IN SQUAR",
     "EaCROSSING LANESaDISABLED CARaOPHIUCHUSaPICKaCAR SLIDINGaHELMET WITH WHITE CROSSaCIRCLED CRO",
     "SSING LANESbHAINSaNO ENTRYaALTERNATE ONE-WAY LEFT WAY TRAFFICaBLACK TWO-WAY LEFT WAY TRAFFIC",
     "aWHITE TWO-WAY LEFT WAY TRAFFICaBLACK LEFT LANE MERGEaWHITE LEFT LANE MERGEaDRIVE SLOW SIGNa",
     "HEAVY WHITE DOWN-POINTING TRIANGLEaLEFT CLOSED ENTRYaSQUARED SALTIREaFALLING DIAGONAL IN WHI",
     "TE CIRCLE IN BLACK SQUAREaBLACK TRUCKaRESTRICTED LEFT ENTRY-1w2aASTRONOMICAL SYMBOL FOR URAN",
     "USaHEAVY CIRCLE WITH STROKE AND TWO DOTS ABOVEaPENTAGRAMaRIGHT-HANDED INTERLACED PENTAGRAMaL",
     "EFT-HANDED INTERLACED PENTAGRAMaINVERTED PENTAGRAMaBLACK CROSS ON SHIELDaSHINTO SHRINEaCHURC",
     "HbASTLEaHISTORIC SITEaGEAR WITHOUT HUBj HANDLESaMAP SYMBOL FOR LIGHTHOUSEbOUNTAINaUMBRELLA O",
     "N GROUNDaFOUNTAINbLAG IN HOLEbERRYaSAILBOATbQUARE FOUR CORNERSbKIERaICE SKATEaPERSON WITH BA",
     "LLaTENTaJAPANESE BANK SYMBOLaHEADSTONE GRAVEYARD SYMBOLaFUEL PUMPaCUP ON BLACK SQUAREaWHITE ",
     "FLAG WITH HORIZONTAL MIDDLE BLACK STRIPEaBLACK SAFETY SCISSORSaUPPER BLADE SCISSORSaBLACK SC",
     "ISSORSaLOWER BLADE SCISSORSaWHITE SCISSORSgHEAVY CHECK MARKaTELEPHONE LOCATION SIGNbAPE DRIV",
     "EaAIRPLANEaENVELOPEaRAISED FISThHANDaVICTORY HANDaWRITING HANDaLOWER RIGHT PENCILaPENCILaUPP",
     "ER RIGHT PENCILaWHITE NIBaBLACK NIBaCHECK MARKaHEAVY CHECK MARKaMULTIPLICATION XaHEAVY MULTI",
     "PLICATION XaBALLOT XaHEAVY BALLOT XaOUTLINED GREEK CROSSaHEAVY GREEK CROSSaOPEN CENTRE CROSS",
     "aHEAVY OPEN CENTRE CROSSaLATIN CROSSaSHADOWED WHITE LATIN CROSSaOUTLINED LATIN CROSSaMALTESE",
     " CROSSaSTAR OF DAVIDaFOUR TEARDROP-SPOKED ASTERISKfBALLOON-SPOKED ASTERISKaHEAVY FOUR BALLOO",
     "N-SPOKED ASTERISKaFOUR CLUB-SPOKED ASTERISKaBLACK FOUR POINTED STARaWHITE FOUR POINTED STARa",
     "SPARKLESbTRESS OUTLINED WHITE STARaCIRCLED WHITE STARaOPEN CENTRE BLACK STARaBLACK CENTRE WH",
     "ITE STARaOUTLINED BLACK STARaHEAVY OUTLINED BLACK STARaPINWHEEL STARaSHADOWED WHITE STARaHEA",
     "VY ASTERISKaOPEN CENTRE ASTERISKaEIGHT SPOKED ASTERISKgPOINTED BLACK STARoPINWHEEL STARaSIX ",
     "POINTED BLACK STARaEIGHT POINTED RECTILINEAR BLACK STARaHEAVY EIGHT POINTED RECTILINEAR BLAC",
     "K STARaTWELVE POINTED BLACK STARaSIXTEEN POINTED ASTERISKaTEARDROP-SPOKED ASTERISKaOPEN CENT",
     "RE TEARDROP-SPOKED ASTERISKaHEAVY TEARDROP-SPOKED ASTERISKaSIX PETALLED BLACK AND WHITE FLOR",
     "ETTEaBLACK FLORETTEaWHITE FLORETTEaEIGHT PETALLED OUTLINED BLACK FLORETTEaCIRCLED OPEN CENTR",
     "E EIGHT POINTED STARaHEAVY TEARDROP-SPOKED PINWHEEL ASTERISKaSNOWFLAKEaTIGHT TRIFOLIATE SNOW",
     "FLAKEaHEAVY CHEVRON SNOWFLAKEaSPARKLEaHEAVY SPARKLEaBALLOON-SPOKED ASTERISKaEIGHT TEARDROP-S",
     "POKED PROPELLER ASTERISKaHEAVY EIGHT TEARDROP-SPOKED PROPELLER ASTERISKaCROSS MARKaSHADOWED ",
     "WHITE CIRCLEaNEGATIVE SQUARED CROSS MARKaLOWER RIGHT DROP-SHADOWED WHITE SQUAREaUPPER RIGHT ",
     "DROP-SHADOWED WHITE SQUAREaLOWER RIGHT SHADOWED WHITE SQUAREaUPPER RIGHT SHADOWED WHITE SQUA",
     "REaBLACK QUESTION MARK ORNAMENTaWHITE QUESTION MARK ORNAMENTgEXCLAMATION MARK ORNAMENTaBLACK",
     " DIAMOND MINUS WHITE XaHEAVY EXCLAMATION MARK SYMBOLaLIGHT VERTICAL BARaMEDIUM VERTICAL BARa",
     "HEAVY VERTICAL BARgSINGLE TURNED COMMA QUOTATION MARK ORNAMENTnCOMMA QUOTATION MARK ORNAMENT",
     "gDOUBLE TURNED COMMA QUOTATION MARK ORNAMENTnCOMMA QUOTATION MARK ORNAMENTgLOW SINGLE COMMA ",
     "QUOTATION MARK ORNAMENTkDOUBLE COMMA QUOTATION MARK ORNAMENTaCURVED STEM PARAGRAPH SIGN ORNA",
     "MENTaHEAVY EXCLAMATION MARK ORNAMENTgHEART EXCLAMATION MARK ORNAMENTgBLACK HEARTaROTATED HEA",
     "VY BLACK HEART BULLETaFLORAL HEARTaROTATED FLORAL HEART BULLETaMEDIUM LEFT PARENTHESIS ORNAM",
     "ENThRIGHT PARENTHESIS ORNAMENThFLATTENED LEFT PARENTHESIS ORNAMENTrRIGHT PARENTHESIS ORNAMEN",
     "ThLEFT-POINTING ANGLE BRACKET ORNAMENThRIGHT-POINTING ANGLE BRACKET ORNAMENTaHEAVY LEFT-POIN",
     "TING ANGLE QUOTATION MARK ORNAMENTgRIGHT-POINTING ANGLE QUOTATION MARK ORNAMENTgLEFT-POINTIN",
     "G ANGLE BRACKET ORNAMENTgRIGHT-POINTING ANGLE BRACKET ORNAMENTaLIGHT LEFT TORTOISE SHELL BRA",
     "CKET ORNAMENTgRIGHT TORTOISE SHELL BRACKET ORNAMENTaMEDIUM LEFT CURLY BRACKET ORNAMENThRIGHT",
     " CURLY BRACKET ORNAMENTaDINGBAT NEGATIVE CIRCLED DIGIT ONEzgTWOzhHREEzgFOURzhIVEzgSIXzhEVENz",
     "gEIGHTzgNINEzaNUMBER TENiCIRCLED SANS-SERIF DIGIT ONEziTWOzjHREEziFOURzjIVEziSIXzjEVENziEIGH",
     "TziNINEzcNUMBER TENiNEGATIVE CIRCLED SANS-SERIF DIGIT ONEzrTWOzsHREEzrFOURzsIVEzrSIXzsEVENzr",
     "EIGHTzrNINEzlNUMBER TENaHEAVY WIDE-HEADED RIGHTWARDS ARROWgPLUS SIGNgMINUS SIGNgDIVISION SIG",
     "NgSOUTH EAST ARROWgRIGHTWARDS ARROWgNORTH EAST ARROWaDRAFTING POINT RIGHTWARDS ARROWaHEAVY R",
     "OUND-TIPPED RIGHTWARDS ARROWaTRIANGLE-HEADED RIGHTWARDS ARROWaHEAVY TRIANGLE-HEADED RIGHTWAR",
     "DS ARROWaDASHED TRIANGLE-HEADED RIGHTWARDS ARROWaHEAVY DASHED TRIANGLE-HEADED RIGHTWARDS ARR",
     "OWaBLACK RIGHTWARDS ARROWaTHREE-D TOP-LIGHTED RIGHTWARDS ARROWHEADiBOTTOM-LIGHTED RIGHTWARDS",
     " ARROWHEADaBLACK RIGHTWARDS ARROWHEADaHEAVY BLACK CURVED DOWNWARDS AND RIGHTWARDS ARROWtUPWA",
     "RDS AND RIGHTWARDS ARROWaSQUAT BLACK RIGHTWARDS ARROWaHEAVY CONCAVE-POINTED BLACK RIGHTWARDS",
     " ARROWaRIGHT-SHADED WHITE RIGHTWARDS ARROWaLEFT-SHADED WHITE RIGHTWARDS ARROWaBACK-TILTED SH",
     "ADOWED WHITE RIGHTWARDS ARROWaFRONT-TILTED SHADOWED WHITE RIGHTWARDS ARROWaHEAVY LOWER RIGHT",
     "-SHADOWED WHITE RIGHTWARDS ARROWgUPPER RIGHT-SHADOWED WHITE RIGHTWARDS ARROWaNOTCHED LOWER R",
     "IGHT-SHADOWED WHITE RIGHTWARDS ARROWaCURLY LOOPaNOTCHED UPPER RIGHT-SHADOWED WHITE RIGHTWARD",
     "S ARROWaCIRCLED HEAVY WHITE RIGHTWARDS ARROWaWHITE-FEATHERED RIGHTWARDS ARROWaBLACK-FEATHERE",
     "D SOUTH EAST ARROWqRIGHTWARDS ARROWqNORTH EAST ARROWaHEAVY BLACK-FEATHERED SOUTH EAST ARROWw",
     "RIGHTWARDS ARROWwNORTH EAST ARROWaTEARDROP-BARBED RIGHTWARDS ARROWaHEAVY TEARDROP-SHANKED RI",
     "GHTWARDS ARROWaWEDGE-TAILED RIGHTWARDS ARROWaHEAVY WEDGE-TAILED RIGHTWARDS ARROWaOPEN-OUTLIN",
     "ED RIGHTWARDS ARROWaDOUBLE CURLY LOOPaTHREE DIMENSIONAL ANGLEaWHITE TRIANGLE CONTAINING SMAL",
     "L WHITE TRIANGLEaPERPENDICULARaOPEN SUBSEThPERSETaLEFT S-SHAPED BAG DELIMITERaRIGHT S-SHAPED",
     " BAG DELIMITERaOR WITH DOT INSIDEaREVERSE SOLIDUS PRECEDING SUBSETaSUPERSET PRECEDING SOLIDU",
     "SaVERTICAL BAR WITH HORIZONTAL STROKEaMATHEMATICAL RISING DIAGONALaLONG DIVISIONaMATHEMATICA",
     "L FALLING DIAGONALaSQUARED LOGICAL ANDqORaWHITE DIAMOND WITH CENTRED DOTaAND WITH DOTaELEMEN",
     "T OF OPENING UPWARDSaLOWER RIGHT CORNER WITH DOTaUPPER LEFT CORNER WITH DOTaLEFT OUTER JOINa",
     "RIGHT OUTER JOINaFULL OUTER JOINaLARGE UP TACKgDOWN TACKbEFT AND RIGHT DOUBLE TURNSTILEpTACK",
     "fMULTIMAPbONG RIGHT TACKfLEFT TACKaUP TACK WITH CIRCLE ABOVEaLOZENGE DIVIDED BY HORIZONTAL R",
     "ULEaWHITE CONCAVE-SIDED DIAMONDzc WITH LEFTWARDS TICKziRIGHTWARDS TICKgSQUARE WITH LEFTWARDS",
     " TICKsRIGHTWARDS TICKaMATHEMATICAL LEFT WHITE SQUARE BRACKETnRIGHT WHITE SQUARE BRACKETnLEFT",
     " ANGLE BRACKETnRIGHT ANGLE BRACKETnLEFT DOUBLE ANGLE BRACKETnRIGHT DOUBLE ANGLE BRACKETnLEFT",
     " WHITE TORTOISE SHELL BRACKETnRIGHT WHITE TORTOISE SHELL BRACKETnLEFT FLATTENED PARENTHESISn",
     "RIGHT FLATTENED PARENTHESISaUPWARDS QUADRUPLE ARROWaDOWNWARDS QUADRUPLE ARROWaANTICLOCKWISE ",
     "GAPPED CIRCLE ARROWaCLOCKWISE GAPPED CIRCLE ARROWaRIGHT ARROW WITH CIRCLED PLUSaLONG LEFTWAR",
     "DS ARROWfRIGHTWARDS ARROWfLEFT RIGHT ARROWjWARDS DOUBLE ARROWfRIGHTWARDS DOUBLE ARROWfLEFT R",
     "IGHT DOUBLE ARROWjWARDS ARROW FROM BARfRIGHTWARDS ARROW FROM BARfLEFTWARDS DOUBLE ARROW FROM",
     " BARfRIGHTWARDS DOUBLE ARROW FROM BARqSQUIGGLE ARROWaBRAILLE PATTERN BLANKqDOTS-1v2v12v3v13v",
     "23v123v4v14v24v124v34v134v234v1234v5v15v25v125v35v135v235v1235v45v145v245v1245v345v1345v2345",
     "v12345v6v16v26v126v36v136v236v1236v46v146v246v1246v346v1346v2346v12346v56v156v256v1256v356v1",
     "356v2356v12356v456v1456v2456v12456v3456v13456v23456v123456v7v17v27v127v37v137v237v1237v47v14",
     "7v247v1247v347v1347v2347v12347v57v157v257v1257v357v1357v2357v12357v457v1457v2457v12457v3457v",
     "13457v23457v123457v67v167v267v1267v367v1367v2367v12367v467v1467v2467v12467v3467v13467v23467v",
     "123467v567v1567v2567v12567v3567v13567v23567v123567v4567v14567v24567v124567v34567v134567v2345",
     "67v1234567v8v18v28v128v38v138v238v1238v48v148v248v1248v348v1348v2348v12348v58v158v258v1258v3",
     "58v1358v2358v12358v458v1458v2458v12458v3458v13458v23458v123458v68v168v268v1268v368v1368v2368",
     "v12368v468v1468v2468v12468v3468v13468v23468v123468v568v1568v2568v12568v3568v13568v23568v1235",
     "68v4568v14568v24568v124568v34568v134568v234568v1234568v78v178v278v1278v378v1378v2378v12378v4",
     "78v1478v2478v12478v3478v13478v23478v123478v578v1578v2578v12578v3578v13578v23578v123578v4578v",
     "14578v24578v124578v34578v134578v234578v1234578v678v1678v2678v12678v3678v13678v23678v123678v4",
     "678v14678v24678v124678v34678v134678v234678v1234678v5678v15678v25678v125678v35678v135678v2356",
     "78v1235678v45678v145678v245678v1245678v345678v1345678v2345678v12345678aRIGHTWARDS TWO-HEADED",
     " ARROW WITH VERTICAL STROKEziDOUBLE VERTICAL STROKEaLEFTWARDS DOUBLE ARROW WITH VERTICAL STR",
     "OKEaRIGHTWARDS DOUBLE ARROW WITH VERTICAL STROKEaLEFT RIGHT DOUBLE ARROW WITH VERTICAL STROK",
     "EaRIGHTWARDS TWO-HEADED ARROW FROM BARaLEFTWARDS DOUBLE ARROW FROM BARaRIGHTWARDS DOUBLE ARR",
     "OW FROM BARaDOWNWARDS ARROW WITH HORIZONTAL STROKEaUPWARDS ARROW WITH HORIZONTAL STROKEiTRIP",
     "LE ARROWaDOWNWARDS TRIPLE ARROWaLEFTWARDS DOUBLE DASH ARROWaRIGHTWARDS DOUBLE DASH ARROWaLEF",
     "TWARDS TRIPLE DASH ARROWaRIGHTWARDS TRIPLE DASH ARROWmWO-HEADED TRIPLE DASH ARROWlARROW WITH",
     " DOTTED STEMaUPWARDS ARROW TO BARaDOWNWARDS ARROW TO BARaRIGHTWARDS ARROW WITH TAIL WITH VER",
     "TICAL STROKEzhDOUBLE VERTICAL STROKElTWO-HEADED ARROW WITH TAILzm WITH VERTICAL STROKEzsDOUB",
     "LE VERTICAL STROKEaLEFTWARDS ARROW-TAILaRIGHTWARDS ARROW-TAILaLEFTWARDS DOUBLE ARROW-TAILaRI",
     "GHTWARDS DOUBLE ARROW-TAILaLEFTWARDS ARROW TO BLACK DIAMONDaRIGHTWARDS ARROW TO BLACK DIAMON",
     "DaLEFTWARDS ARROW FROM BAR TO BLACK DIAMONDaRIGHTWARDS ARROW FROM BAR TO BLACK DIAMONDaNORTH",
     " WEST AND SOUTH EAST ARROWgEAST AND SOUTH WEST ARROWgWEST ARROW WITH HOOKgEAST ARROW WITH HO",
     "OKaSOUTH EAST ARROW WITH HOOKgWEST ARROW WITH HOOKaNORTH WEST ARROW AND NORTH EAST ARROWgEAS",
     "T ARROW AND SOUTH EAST ARROWaSOUTH EAST ARROW AND SOUTH WEST ARROWgWEST ARROW AND NORTH WEST",
     " ARROWaRISING DIAGONAL CROSSING FALLING DIAGONALaFALLING DIAGONAL CROSSING RISING DIAGONALaS",
     "OUTH EAST ARROW CROSSING NORTH EAST ARROWaNORTH EAST ARROW CROSSING SOUTH EAST ARROWaFALLING",
     " DIAGONAL CROSSING NORTH EAST ARROWaRISING DIAGONAL CROSSING SOUTH EAST ARROWaNORTH EAST ARR",
     "OW CROSSING NORTH WEST ARROWgWEST ARROW CROSSING NORTH EAST ARROWaWAVE ARROW POINTING DIRECT",
     "LY RIGHTaARROW POINTING RIGHTWARDS THEN CURVING UPWARDSzoDOWNWARDSpDOWNWARDS THEN CURVING LE",
     "FTWARDSznRIGHTWARDSaRIGHT-SIDE ARC CLOCKWISE ARROWaLEFT-SIDE ARC ANTICLOCKWISE ARROWaTOP ARC",
     " ANTICLOCKWISE ARROWaBOTTOM ARC ANTICLOCKWISE ARROWaTOP ARC CLOCKWISE ARROW WITH MINUSiANTIC",
     "LOCKWISE ARROW WITH PLUSaLOWER RIGHT SEMICIRCULAR CLOCKWISE ARROWgLEFT SEMICIRCULAR ANTICLOC",
     "KWISE ARROWaANTICLOCKWISE CLOSED CIRCLE ARROWaCLOCKWISE CLOSED CIRCLE ARROWaRIGHTWARDS ARROW",
     " ABOVE SHORT LEFTWARDS ARROWaLEFTWARDS ARROW ABOVE SHORT RIGHTWARDS ARROWaSHORT RIGHTWARDS A",
     "RROW ABOVE LEFTWARDS ARROWaRIGHTWARDS ARROW WITH PLUS BELOWaLEFTWARDS ARROW WITH PLUS BELOWa",
     "RIGHTWARDS ARROW THROUGH XaLEFT RIGHT ARROW THROUGH SMALL CIRCLEaUPWARDS TWO-HEADED ARROW FR",
     "OM SMALL CIRCLEaLEFT BARB UP RIGHT BARB DOWN HARPOONkDOWN RIGHT BARB UP HARPOONaUP BARB RIGH",
     "T DOWN BARB LEFT HARPOONiLEFT DOWN BARB RIGHT HARPOONaLEFT BARB UP RIGHT BARB UP HARPOONaUP ",
     "BARB RIGHT DOWN BARB RIGHT HARPOONaLEFT BARB DOWN RIGHT BARB DOWN HARPOONaUP BARB LEFT DOWN ",
     "BARB LEFT HARPOONaLEFTWARDS HARPOON WITH BARB UP TO BARaRIGHTWARDS HARPOON WITH BARB UP TO B",
     "ARaUPWARDS HARPOON WITH BARB RIGHT TO BARaDOWNWARDS HARPOON WITH BARB RIGHT TO BARaLEFTWARDS",
     " HARPOON WITH BARB DOWN TO BARaRIGHTWARDS HARPOON WITH BARB DOWN TO BARaUPWARDS HARPOON WITH",
     " BARB LEFT TO BARaDOWNWARDS HARPOON WITH BARB LEFT TO BARaLEFTWARDS HARPOON WITH BARB UP FRO",
     "M BARaRIGHTWARDS HARPOON WITH BARB UP FROM BARaUPWARDS HARPOON WITH BARB RIGHT FROM BARaDOWN",
     "WARDS HARPOON WITH BARB RIGHT FROM BARaLEFTWARDS HARPOON WITH BARB DOWN FROM BARaRIGHTWARDS ",
     "HARPOON WITH BARB DOWN FROM BARaUPWARDS HARPOON WITH BARB LEFT FROM BARaDOWNWARDS HARPOON WI",
     "TH BARB LEFT FROM BARaLEFTWARDS HARPOON WITH BARB UP ABOVE LEFTWARDS HARPOON WITH BARB DOWNa",
     "UPWARDS HARPOON WITH BARB LEFT BESIDE UPWARDS HARPOON WITH BARB RIGHTaRIGHTWARDS HARPOON WIT",
     "H BARB UP ABOVE RIGHTWARDS HARPOON WITH BARB DOWNaDOWNWARDS HARPOON WITH BARB LEFT BESIDE DO",
     "WNWARDS HARPOON WITH BARB RIGHTaLEFTWARDS HARPOON WITH BARB UP ABOVE RIGHTWARDS HARPOON WITH",
     " BARB UPzdDOWN ABOVE RIGHTWARDS HARPOON WITH BARB DOWNaRIGHTWARDS HARPOON WITH BARB UP ABOVE",
     " LEFTWARDS HARPOON WITH BARB UPzeDOWN ABOVE LEFTWARDS HARPOON WITH BARB DOWNaLEFTWARDS HARPO",
     "ON WITH BARB UP ABOVE LONG DASHzdDOWN BELOW LONG DASHaRIGHTWARDS HARPOON WITH BARB UP ABOVE ",
     "LONG DASHzeDOWN BELOW LONG DASHaUPWARDS HARPOON WITH BARB LEFT BESIDE DOWNWARDS HARPOON WITH",
     " BARB RIGHTaDOWNWARDS HARPOON WITH BARB LEFT BESIDE UPWARDS HARPOON WITH BARB RIGHTaRIGHT DO",
     "UBLE ARROW WITH ROUNDED HEADaEQUALS SIGN ABOVE RIGHTWARDS ARROWaTILDE OPERATOR ABOVE RIGHTWA",
     "RDS ARROWaLEFTWARDS ARROW ABOVE TILDE OPERATORaRIGHTWARDS ARROW ABOVE TILDE OPERATORxALMOST ",
     "EQUAL TOaLESS-THAN ABOVE LEFTWARDS ARROWcFTWARDS ARROW THROUGH LESS-THANaGREATER-THAN ABOVE ",
     "RIGHTWARDS ARROWaSUBSET ABOVE RIGHTWARDS ARROWaLEFTWARDS ARROW THROUGH SUBSETaSUPERSET ABOVE",
     " LEFTWARDS ARROWaLEFT FISH TAILaRIGHT FISH TAILaUP FISH TAILaDOWN FISH TAILaTRIPLE VERTICAL ",
     "BAR DELIMITERaZ NOTATION SPOTlTYPE COLONaLEFT WHITE CURLY BRACKETaRIGHT WHITE CURLY BRACKETa",
     "LEFT WHITE PARENTHESISaRIGHT WHITE PARENTHESISaZ NOTATION LEFT IMAGE BRACKETlRIGHT IMAGE BRA",
     "CKETlLEFT BINDING BRACKETlRIGHT BINDING BRACKETaLEFT SQUARE BRACKET WITH UNDERBARaRIGHT SQUA",
     "RE BRACKET WITH UNDERBARaLEFT SQUARE BRACKET WITH TICK IN TOP CORNERaRIGHT SQUARE BRACKET WI",
     "TH TICK IN BOTTOM CORNERaLEFT SQUARE BRACKET WITH TICK IN BOTTOM CORNERaRIGHT SQUARE BRACKET",
     " WITH TICK IN TOP CORNERaLEFT ANGLE BRACKET WITH DOTaRIGHT ANGLE BRACKET WITH DOTaLEFT ARC L",
     "ESS-THAN BRACKETaRIGHT ARC GREATER-THAN BRACKETaDOUBLE LEFT ARC GREATER-THAN BRACKEThRIGHT A",
     "RC LESS-THAN BRACKETaLEFT BLACK TORTOISE SHELL BRACKETaRIGHT BLACK TORTOISE SHELL BRACKETaDO",
     "TTED FENCEaVERTICAL ZIGZAG LINEaMEASURED ANGLE OPENING LEFTaRIGHT ANGLE VARIANT WITH SQUAREa",
     "MEASURED RIGHT ANGLE WITH DOTaANGLE WITH S INSIDEbCUTE ANGLEaSPHERICAL ANGLE OPENING LEFTyUP",
     "aTURNED ANGLEaREVERSED ANGLEaANGLE WITH UNDERBARaREVERSED ANGLE WITH UNDERBARaOBLIQUE ANGLE ",
     "OPENING UPwDOWNaMEASURED ANGLE WITH OPEN ARM ENDING IN ARROW POINTING UP AND RIGHTzzlLEFTzze",
     "DOWN AND RIGHTzznLEFTzzeRIGHT AND UPzzeLEFT AND UPzzeRIGHT AND DOWNzzeLEFT AND DOWNaREVERSED",
     " EMPTY SETaEMPTY SET WITH OVERBARpSMALL CIRCLE ABOVEpRIGHT ARROW ABOVEpLEFT ARROW ABOVEaCIRC",
     "LE WITH HORIZONTAL BARgD VERTICAL BARiPARALLELiREVERSE SOLIDUSiPERPENDICULARg DIVIDED BY HOR",
     "IZONTAL BAR AND TOP HALF DIVIDED BY VERTICAL BARhWITH SUPERIMPOSED XgD ANTICLOCKWISE-ROTATED",
     " DIVISION SIGNaUP ARROW THROUGH CIRCLEaCIRCLED WHITE BULLETiBULLETiLESS-THANiGREATER-THANg W",
     "ITH SMALL CIRCLE TO THE RIGHTmTWO HORIZONTAL STROKES TO THE RIGHTaSQUARED RISING DIAGONAL SL",
     "ASHiFALLING DIAGONAL SLASHiASTERISKiSMALL CIRCLEjQUAREaTWO JOINED SQUARESbRIANGLE WITH DOT A",
     "BOVEoUNDERBARaS IN TRIANGLEaTRIANGLE WITH SERIFS AT BOTTOMaRIGHT TRIANGLE ABOVE LEFT TRIANGL",
     "EaLEFT TRIANGLE BESIDE VERTICAL BARaVERTICAL BAR BESIDE RIGHT TRIANGLEaBOWTIE WITH LEFT HALF",
     " BLACKmRIGHT HALF BLACKbLACK BOWTIEaTIMES WITH LEFT HALF BLACKlRIGHT HALF BLACKaWHITE HOURGL",
     "ASSaBLACK HOURGLASSaLEFT WIGGLY FENCEaRIGHT WIGGLY FENCEaLEFT DOUBLE WIGGLY FENCEaRIGHT DOUB",
     "LE WIGGLY FENCEaINCOMPLETE INFINITYaTIE OVER INFINITYaINFINITY NEGATED WITH VERTICAL BARaDOU",
     "BLE-ENDED MULTIMAPaSQUARE WITH CONTOURED OUTLINEaINCREASES ASaSHUFFLE PRODUCTaEQUALS SIGN AN",
     "D SLANTED PARALLELzh WITH TILDE ABOVEaIDENTICAL TO AND SLANTED PARALLELaGLEICH STARKaTHERMOD",
     "YNAMICaDOWN-POINTING TRIANGLE WITH LEFT HALF BLACKzdRIGHT HALF BLACKaBLACK DIAMOND WITH DOWN",
     " ARROWgLOZENGEaWHITE CIRCLE WITH DOWN ARROWaBLACK CIRCLE WITH DOWN ARROWaERROR-BARRED WHITE ",
     "SQUAREnBLACK SQUAREnWHITE DIAMONDnBLACK DIAMONDnWHITE CIRCLEnBLACK CIRCLEaRULE-DELAYEDbEVERS",
     "E SOLIDUS OPERATORaSOLIDUS WITH OVERBARaREVERSE SOLIDUS WITH HORIZONTAL STROKEaBIG SOLIDUSeR",
     "EVERSE SOLIDUSaDOUBLE PLUSaTRIPLE PLUSaLEFT-POINTING CURVED ANGLE BRACKETaRIGHT-POINTING CUR",
     "VED ANGLE BRACKETaTINYaMINYaN-ARY CIRCLED DOT OPERATORoPLUS OPERATORoTIMES OPERATORgUNION OP",
     "ERATOR WITH DOTzbPLUSgSQUARE INTERSECTION OPERATORnUNION OPERATORaTWO LOGICAL AND OPERATORmO",
     "R OPERATORaN-ARY TIMES OPERATORaMODULO TWO SUMaSUMMATION WITH INTEGRALaQUADRUPLE INTEGRAL OP",
     "ERATORaFINITE PART INTEGRALaINTEGRAL WITH DOUBLE STROKEjAVERAGE WITH SLASHaCIRCULATION FUNCT",
     "IONaANTICLOCKWISE INTEGRATIONaLINE INTEGRATION WITH RECTANGULAR PATH AROUND POLEwSEMICIRCULA",
     "R PATH AROUND POLErNOT INCLUDING THE POLEaINTEGRAL AROUND A POINT OPERATORaQUATERNION INTEGR",
     "AL OPERATORaINTEGRAL WITH LEFTWARDS ARROW WITH HOOKoTIMES SIGNoINTERSECTIONoUNIONoOVERBARoUN",
     "DERBARaJOINaLARGE LEFT TRIANGLE OPERATORaZ NOTATION SCHEMA COMPOSITIONsPIPINGtROJECTIONaPLUS",
     " SIGN WITH SMALL CIRCLE ABOVEpCIRCUMFLEX ACCENT ABOVEpTILDE ABOVEpDOT BELOWpTILDE BELOWpSUBS",
     "CRIPT TWOpBLACK TRIANGLEaMINUS SIGN WITH COMMA ABOVEqDOT BELOWqFALLING DOTSqRISING DOTSaPLUS",
     " SIGN IN LEFT HALF CIRCLEnRIGHT HALF CIRCLEaVECTOR OR CROSS PRODUCTaMULTIPLICATION SIGN WITH",
     " DOT ABOVEzaUNDERBARaSEMIDIRECT PRODUCT WITH BOTTOM CLOSEDbMASH PRODUCTaMULTIPLICATION SIGN ",
     "IN LEFT HALF CIRCLExRIGHT HALF CIRCLEaCIRCLED MULTIPLICATION SIGN WITH CIRCUMFLEX ACCENTaMUL",
     "TIPLICATION SIGN IN DOUBLE CIRCLEaCIRCLED DIVISION SIGNaPLUS SIGN IN TRIANGLEaMINUS SIGN IN ",
     "TRIANGLEbULTIPLICATION SIGN IN TRIANGLEaINTERIOR PRODUCTaRIGHTHAND INTERIOR PRODUCTaZ NOTATI",
     "ON RELATIONAL COMPOSITIONaAMALGAMATION OR COPRODUCTaINTERSECTION WITH DOTaUNION WITH MINUS S",
     "IGNlOVERBARaINTERSECTION WITH OVERBARsLOGICAL ANDaUNION WITH LOGICAL ORgABOVE INTERSECTIONaI",
     "NTERSECTION ABOVE UNIONaUNION ABOVE BAR ABOVE INTERSECTIONaINTERSECTION ABOVE BAR ABOVE UNIO",
     "NaUNION BESIDE AND JOINED WITH UNIONaINTERSECTION BESIDE AND JOINED WITH INTERSECTIONaCLOSED",
     " UNION WITH SERIFShINTERSECTION WITH SERIFSaDOUBLE SQUARE INTERSECTIONoUNIONaCLOSED UNION WI",
     "TH SERIFS AND SMASH PRODUCTaLOGICAL AND WITH DOT ABOVEiOR WITH DOT ABOVEaDOUBLE LOGICAL ANDp",
     "ORaTWO INTERSECTING LOGICAL ANDzaORaSLOPING LARGE ORoANDaLOGICAL OR OVERLAPPING LOGICAL ANDi",
     "AND WITH MIDDLE STEMiOR WITH MIDDLE STEMiAND WITH HORIZONTAL DASHiOR WITH HORIZONTAL DASHiAN",
     "D WITH DOUBLE OVERBARrUNDERBARrDOUBLE UNDERBARaSMALL VEE WITH UNDERBARaLOGICAL OR WITH DOUBL",
     "E OVERBARxUNDERBARaZ NOTATION DOMAIN ANTIRESTRICTIONlRANGE ANTIRESTRICTIONaEQUALS SIGN WITH ",
     "DOT BELOWaIDENTICAL WITH DOT ABOVEaTRIPLE HORIZONTAL BAR WITH DOUBLE VERTICAL STROKEzcTRIPLE",
     " VERTICAL STROKEbILDE OPERATOR WITH DOT ABOVEuRISING DOTSaSIMILAR MINUS SIMILARaCONGRUENT WI",
     "TH DOT ABOVEaEQUALS WITH ASTERISKaALMOST EQUAL TO WITH CIRCUMFLEX ACCENTbPPROXIMATELY EQUAL ",
     "OR EQUAL TOaEQUALS SIGN ABOVE PLUS SIGNaPLUS SIGN ABOVE EQUALS SIGNaEQUALS SIGN ABOVE TILDE ",
     "OPERATORaDOUBLE COLON EQUALaTWO CONSECUTIVE EQUALS SIGNSbHREE CONSECUTIVE EQUALS SIGNSaEQUAL",
     "S SIGN WITH TWO DOTS ABOVE AND TWO DOTS BELOWdIVALENT WITH FOUR DOTS ABOVEaLESS-THAN WITH CI",
     "RCLE INSIDEaGREATER-THAN WITH CIRCLE INSIDEaLESS-THAN WITH QUESTION MARK ABOVEaGREATER-THAN ",
     "WITH QUESTION MARK ABOVEaLESS-THAN OR SLANTED EQUAL TOaGREATER-THAN OR SLANTED EQUAL TOaLESS",
     "-THAN OR SLANTED EQUAL TO WITH DOT INSIDEaGREATER-THAN OR SLANTED EQUAL TO WITH DOT INSIDEaL",
     "ESS-THAN OR SLANTED EQUAL TO WITH DOT ABOVEaGREATER-THAN OR SLANTED EQUAL TO WITH DOT ABOVEa",
     "LESS-THAN OR SLANTED EQUAL TO WITH DOT ABOVE RIGHTaGREATER-THAN OR SLANTED EQUAL TO WITH DOT",
     " ABOVE LEFTaLESS-THAN OR APPROXIMATEaGREATER-THAN OR APPROXIMATEaLESS-THAN AND SINGLE-LINE N",
     "OT EQUAL TOaGREATER-THAN AND SINGLE-LINE NOT EQUAL TOaLESS-THAN AND NOT APPROXIMATEaGREATER-",
     "THAN AND NOT APPROXIMATEaLESS-THAN ABOVE DOUBLE-LINE EQUAL ABOVE GREATER-THANaGREATER-THAN A",
     "BOVE DOUBLE-LINE EQUAL ABOVE LESS-THANaLESS-THAN ABOVE SIMILAR OR EQUALaGREATER-THAN ABOVE S",
     "IMILAR OR EQUALaLESS-THAN ABOVE SIMILAR ABOVE GREATER-THANaGREATER-THAN ABOVE SIMILAR ABOVE ",
     "LESS-THANaLESS-THAN ABOVE GREATER-THAN ABOVE DOUBLE-LINE EQUALaGREATER-THAN ABOVE LESS-THAN ",
     "ABOVE DOUBLE-LINE EQUALaLESS-THAN ABOVE SLANTED EQUAL ABOVE GREATER-THAN ABOVE SLANTED EQUAL",
     "aGREATER-THAN ABOVE SLANTED EQUAL ABOVE LESS-THAN ABOVE SLANTED EQUALaSLANTED EQUAL TO OR LE",
     "SS-THANuGREATER-THANuLESS-THAN WITH DOT INSIDEuGREATER-THAN WITH DOT INSIDEaDOUBLE-LINE EQUA",
     "L TO OR LESS-THANyGREATER-THANmSLANTED EQUAL TO OR LESS-THANzhGREATER-THANaSIMILAR OR LESS-T",
     "HANlGREATER-THANiABOVE LESS-THAN ABOVE EQUALS SIGNoGREATER-THAN ABOVE EQUALS SIGNaDOUBLE NES",
     "TED LESS-THANoGREATER-THANoLESS-THAN WITH UNDERBARaGREATER-THAN OVERLAPPING LESS-THANnBESIDE",
     " LESS-THANaLESS-THAN CLOSED BY CURVEaGREATER-THAN CLOSED BY CURVEaLESS-THAN CLOSED BY CURVE ",
     "ABOVE SLANTED EQUALaGREATER-THAN CLOSED BY CURVE ABOVE SLANTED EQUALaSMALLER THANaLARGER THA",
     "NaSMALLER THAN OR EQUAL TOaLARGER THAN OR EQUAL TOaEQUALS SIGN WITH BUMPY ABOVEaPRECEDES ABO",
     "VE SINGLE-LINE EQUALS SIGNaSUCCEEDS ABOVE SINGLE-LINE EQUALS SIGNaPRECEDES ABOVE SINGLE-LINE",
     " NOT EQUAL TOaSUCCEEDS ABOVE SINGLE-LINE NOT EQUAL TOaPRECEDES ABOVE EQUALS SIGNaSUCCEEDS AB",
     "OVE EQUALS SIGNaPRECEDES ABOVE NOT EQUAL TOaSUCCEEDS ABOVE NOT EQUAL TOaPRECEDES ABOVE ALMOS",
     "T EQUAL TOaSUCCEEDS ABOVE ALMOST EQUAL TOaPRECEDES ABOVE NOT ALMOST EQUAL TOaSUCCEEDS ABOVE ",
     "NOT ALMOST EQUAL TOaDOUBLE PRECEDEShSUCCEEDSaSUBSET WITH DOTcPERSET WITH DOTcBSET WITH PLUS ",
     "SIGN BELOWcPERSET WITH PLUS SIGN BELOWcBSET WITH MULTIPLICATION SIGN BELOWcPERSET WITH MULTI",
     "PLICATION SIGN BELOWcBSET OF OR EQUAL TO WITH DOT ABOVEcPERSET OF OR EQUAL TO WITH DOT ABOVE",
     "cBSET OF ABOVE EQUALS SIGNcPERSET OF ABOVE EQUALS SIGNcBSET OF ABOVE TILDE OPERATORcPERSET O",
     "F ABOVE TILDE OPERATORcBSET OF ABOVE ALMOST EQUAL TOcPERSET OF ABOVE ALMOST EQUAL TOcBSET OF",
     " ABOVE NOT EQUAL TOcPERSET OF ABOVE NOT EQUAL TObQUARE LEFT OPEN BOX OPERATORhRIGHT OPEN BOX",
     " OPERATORaCLOSED SUBSETjPERSETjBSET OR EQUAL TOjPERSET OR EQUAL TOaSUBSET ABOVE SUPERSETcPER",
     "SET ABOVE SUBSETcBSET ABOVE SUBSETcPERSET ABOVE SUPERSETjBESIDE SUBSETqAND JOINED BY DASH WI",
     "TH SUBSETaELEMENT OF OPENING DOWNWARDSaPITCHFORK WITH TEE TOPaTRANSVERSAL INTERSECTIONaFORKI",
     "NGaNONFORKINGaSHORT LEFT TACKgDOWN TACKgUP TACKaPERPENDICULAR WITH SaVERTICAL BAR TRIPLE RIG",
     "HT TURNSTILEaDOUBLE VERTICAL BAR LEFT TURNSTILEaVERTICAL BAR DOUBLE LEFT TURNSTILEaDOUBLE VE",
     "RTICAL BAR DOUBLE LEFT TURNSTILEaLONG DASH FROM LEFT MEMBER OF DOUBLE VERTICALaSHORT DOWN TA",
     "CK WITH OVERBARgUP TACK WITH UNDERBARoABOVE SHORT DOWN TACKaDOUBLE DOWN TACKhUP TACKhSTROKE ",
     "NOT SIGNaREVERSED DOUBLE STROKE NOT SIGNaDOES NOT DIVIDE WITH REVERSED NEGATION SLASHaVERTIC",
     "AL LINE WITH CIRCLE ABOVEzbBELOWaDOWN TACK WITH CIRCLE BELOWaPARALLEL WITH HORIZONTAL STROKE",
     "oTILDE OPERATORaTRIPLE VERTICAL BAR BINARY RELATIONuWITH HORIZONTAL STROKEhCOLON OPERATORhNE",
     "STED LESS-THANoGREATER-THANaDOUBLE-LINE SLANTED LESS-THAN OR EQUAL TOuGREATER-THAN OR EQUAL ",
     "TOaTRIPLE SOLIDUS BINARY RELATIONaLARGE TRIPLE VERTICAL BAR OPERATORaDOUBLE SOLIDUS OPERATOR",
     "aWHITE VERTICAL BARaN-ARY WHITE VERTICAL BARbORTH EAST WHITE ARROWgWEST WHITE ARROWaSOUTH EA",
     "ST WHITE ARROWgWEST WHITE ARROWaLEFT RIGHT WHITE ARROWeWARDS BLACK ARROWaUPWARDS BLACK ARROW",
     "aDOWNWARDS BLACK ARROWaNORTH EAST BLACK ARROWgWEST BLACK ARROWaSOUTH EAST BLACK ARROWgWEST B",
     "LACK ARROWaLEFT RIGHT BLACK ARROWaUP DOWN BLACK ARROWaRIGHTWARDS ARROW WITH TIP DOWNWARDSzbU",
     "PWARDSaLEFTWARDS ARROW WITH TIP DOWNWARDSzaUPWARDSaSQUARE WITH TOP HALF BLACKmBOTTOM HALF BL",
     "ACKmUPPER RIGHT DIAGONAL HALF BLACKmLOWER LEFT DIAGONAL HALF BLACKaDIAMOND WITH LEFT HALF BL",
     "ACKnRIGHT HALF BLACKnTOP HALF BLACKnBOTTOM HALF BLACKbOTTED SQUAREaBLACK LARGE SQUAREaWHITE ",
     "LARGE SQUAREaBLACK VERY SMALL SQUAREaWHITE VERY SMALL SQUAREaBLACK PENTAGONaWHITE PENTAGONgH",
     "EXAGONaBLACK HEXAGONaHORIZONTAL BLACK HEXAGONaBLACK LARGE CIRCLEgMEDIUM DIAMONDaWHITE MEDIUM",
     " DIAMONDaBLACK MEDIUM LOZENGEaWHITE MEDIUM LOZENGEaBLACK SMALL DIAMONDmLOZENGEaWHITE SMALL L",
     "OZENGEaBLACK HORIZONTAL ELLIPSEaWHITE HORIZONTAL ELLIPSEaBLACK VERTICAL ELLIPSEaWHITE VERTIC",
     "AL ELLIPSEaLEFT ARROW WITH SMALL CIRCLEaTHREE LEFTWARDS ARROWSaLEFT ARROW WITH CIRCLED PLUSb",
     "ONG LEFTWARDS SQUIGGLE ARROWbEFTWARDS TWO-HEADED ARROW WITH VERTICAL STROKEzhDOUBLE VERTICAL",
     " STROKEzcFROM BARvTRIPLE DASH ARROWkARROW WITH DOTTED STEMvTAIL WITH VERTICAL STROKEzgDOUBLE",
     " VERTICAL STROKEkTWO-HEADED ARROW WITH TAILzl WITH VERTICAL STROKEzrDOUBLE VERTICAL STROKEkA",
     "RROW THROUGH XaWAVE ARROW POINTING DIRECTLY LEFTaEQUALS SIGN ABOVE LEFTWARDS ARROWaREVERSE T",
     "ILDE OPERATOR ABOVE LEFTWARDS ARROWaLEFTWARDS ARROW ABOVE REVERSE ALMOST EQUAL TOaRIGHTWARDS",
     " ARROW THROUGH GREATER-THANzaSUPERSETaLEFTWARDS QUADRUPLE ARROWaRIGHTWARDS QUADRUPLE ARROWbE",
     "VERSE TILDE OPERATOR ABOVE RIGHTWARDS ARROWbIGHTWARDS ARROW ABOVE REVERSE ALMOST EQUAL TOaTI",
     "LDE OPERATOR ABOVE LEFTWARDS ARROWaLEFTWARDS ARROW ABOVE ALMOST EQUAL TOwREVERSE TILDE OPERA",
     "TORaRIGHTWARDS ARROW ABOVE REVERSE TILDE OPERATORaDOWNWARDS TRIANGLE-HEADED ZIGZAG ARROWaSHO",
     "RT SLANTED NORTH ARROWgBACKSLANTED SOUTH ARROWaWHITE MEDIUM STARaBLACK SMALL STARaWHITE SMAL",
     "L STARaBLACK RIGHT-POINTING PENTAGONaWHITE RIGHT-POINTING PENTAGONaHEAVY LARGE CIRCLEgOVAL W",
     "ITH OVAL INSIDEgCIRCLE WITH CIRCLE INSIDEmmD SALTIREaSLANTED NORTH ARROW WITH HOOKED HEADaBA",
     "CKSLANTED SOUTH ARROW WITH HOOKED TAILaSLANTED NORTH ARROW WITH HORIZONTAL TAILaBACKSLANTED ",
     "SOUTH ARROW WITH HORIZONTAL TAILbENT ARROW POINTING DOWNWARDS THEN NORTH EASTaSHORT BENT ARR",
     "OW POINTING DOWNWARDS THEN NORTH EASTaLEFTWARDS TRIANGLE-HEADED ARROWaUPWARDS TRIANGLE-HEADE",
     "D ARROWaRIGHTWARDS TRIANGLE-HEADED ARROWaDOWNWARDS TRIANGLE-HEADED ARROWaLEFT RIGHT TRIANGLE",
     "-HEADED ARROWaUP DOWN TRIANGLE-HEADED ARROWaNORTH WEST TRIANGLE-HEADED ARROWgEAST TRIANGLE-H",
     "EADED ARROWaSOUTH EAST TRIANGLE-HEADED ARROWgWEST TRIANGLE-HEADED ARROWaLEFTWARDS TRIANGLE-H",
     "EADED DASHED ARROWaUPWARDS TRIANGLE-HEADED DASHED ARROWaRIGHTWARDS TRIANGLE-HEADED DASHED AR",
     "ROWaDOWNWARDS TRIANGLE-HEADED DASHED ARROWaCLOCKWISE TRIANGLE-HEADED OPEN CIRCLE ARROWaANTIC",
     "LOCKWISE TRIANGLE-HEADED OPEN CIRCLE ARROWaLEFTWARDS TRIANGLE-HEADED ARROW TO BARaUPWARDS TR",
     "IANGLE-HEADED ARROW TO BARaRIGHTWARDS TRIANGLE-HEADED ARROW TO BARaDOWNWARDS TRIANGLE-HEADED",
     " ARROW TO BAR"]⟩,
   ⟨11126, ["aNORTH WEST TRIANGLE-HEADED ARROW TO BARgEAST TRIANGLE-HEADED ARROW TO BARaSOUTH EAST",
     " TRIANGLE-HEADED ARROW TO BARgWEST TRIANGLE-HEADED ARROW TO BARaLEFTWARDS TRIANGLE-HEADED AR",
     "ROW WITH DOUBLE HORIZONTAL STROKEaUPWARDS TRIANGLE-HEADED ARROW WITH DOUBLE HORIZONTAL STROK",
     "EaRIGHTWARDS TRIANGLE-HEADED ARROW WITH DOUBLE HORIZONTAL STROKEaDOWNWARDS TRIANGLE-HEADED A",
     "RROW WITH DOUBLE HORIZONTAL STROKEaHORIZONTAL TAB KEYaVERTICAL TAB KEYaLEFTWARDS TRIANGLE-HE",
     "ADED ARROW OVER RIGHTWARDS TRIANGLE-HEADED ARROWaUPWARDS TRIANGLE-HEADED ARROW LEFTWARDS OF ",
     "DOWNWARDS TRIANGLE-HEADED ARROWaRIGHTWARDS TRIANGLE-HEADED ARROW OVER LEFTWARDS TRIANGLE-HEA",
     "DED ARROWaDOWNWARDS TRIANGLE-HEADED ARROW LEFTWARDS OF UPWARDS TRIANGLE-HEADED ARROWaLEFTWAR",
     "DS TRIANGLE-HEADED PAIRED ARROWSaUPWARDS TRIANGLE-HEADED PAIRED ARROWSaRIGHTWARDS TRIANGLE-H",
     "EADED PAIRED ARROWSaDOWNWARDS TRIANGLE-HEADED PAIRED ARROWSaLEFTWARDS BLACK CIRCLED WHITE AR",
     "ROWaUPWARDS BLACK CIRCLED WHITE ARROWaRIGHTWARDS BLACK CIRCLED WHITE ARROWaDOWNWARDS BLACK C",
     "IRCLED WHITE ARROWaANTICLOCKWISE TRIANGLE-HEADED RIGHT U-SHAPED ARROWzfBOTTOM U-SHAPED ARROW",
     "zfLEFT U-SHAPED ARROWzfTOP U-SHAPED ARROWaRETURN LEFThRIGHTaNEWLINE LEFTiRIGHTaFOUR CORNER A",
     "RROWS CIRCLING ANTICLOCKWISEaRIGHTWARDS BLACK ARROW"]⟩,
   ⟨11159, ["aSYMBOL FOR TYPE A ELECTRONICSaTHREE-D TOP-LIGHTED LEFTWARDS EQUILATERAL ARROWHEADiRI",
     "GHT-LIGHTED UPWARDS EQUILATERAL ARROWHEADiTOP-LIGHTED RIGHTWARDS EQUILATERAL ARROWHEADiLEFT-",
     "LIGHTED DOWNWARDS EQUILATERAL ARROWHEADaBLACK LEFTWARDS EQUILATERAL ARROWHEADgUPWARDS EQUILA",
     "TERAL ARROWHEADgRIGHTWARDS EQUILATERAL ARROWHEADgDOWNWARDS EQUILATERAL ARROWHEADaDOWNWARDS T",
     "RIANGLE-HEADED ARROW WITH LONG TIP LEFTWARDSzvRIGHTWARDSaUPWARDS TRIANGLE-HEADED ARROW WITH ",
     "LONG TIP LEFTWARDSztRIGHTWARDSaLEFTWARDS TRIANGLE-HEADED ARROW WITH LONG TIP UPWARDSaRIGHTWA",
     "RDS TRIANGLE-HEADED ARROW WITH LONG TIP UPWARDSaLEFTWARDS TRIANGLE-HEADED ARROW WITH LONG TI",
     "P DOWNWARDSaRIGHTWARDS TRIANGLE-HEADED ARROW WITH LONG TIP DOWNWARDSaBLACK CURVED DOWNWARDS ",
     "AND LEFTWARDS ARROWzcRIGHTWARDS ARROWnUPWARDS AND LEFTWARDS ARROWzaRIGHTWARDS ARROWnLEFTWARD",
     "S AND UPWARDS ARROWnRIGHTWARDS AND UPWARDS ARROWnLEFTWARDS AND DOWNWARDS ARROWnRIGHTWARDS AN",
     "D DOWNWARDS ARROWaRIBBON ARROW DOWN LEFTsRIGHTnUP LEFTqRIGHTnLEFT UPnRIGHT UPnLEFT DOWNnRIGH",
     "T DOWNaUPWARDS WHITE ARROW FROM BAR WITH HORIZONTAL BARc ARROWHEAD IN A RECTANGLE BOXaOVERLA",
     "PPING WHITE SQUARESsAND BLACK SQUARESmBLACK SQUARESaBALLOT BOX WITH LIGHT XaCIRCLED XiBOLD X",
     "aBLACK SQUARE CENTREDgDIAMOND CENTREDaTURNED BLACK PENTAGONaHORIZONTAL BLACK OCTAGONaBLACK O",
     "CTAGONgMEDIUM UP-POINTING TRIANGLE CENTREDnDOWN-POINTING TRIANGLE CENTREDnLEFT-POINTING TRIA",
     "NGLE CENTREDnRIGHT-POINTING TRIANGLE CENTREDaNEPTUNE FORM TWOaTOP HALF BLACK CIRCLEaBOTTOM H",
     "ALF BLACK CIRCLEaLIGHT FOUR POINTED BLACK CUSPaROTATED LIGHT FOUR POINTED BLACK CUSPaWHITE F",
     "OUR POINTED CUSPaROTATED WHITE FOUR POINTED CUSPaSQUARE POSITION INDICATORaUNCERTAINTY SIGNa",
     "GROUP MARKaPLUTO FORM TWOmHREElFOURmIVEaTRANSPLUTOaPROSERPINAaASTRAEAaHYGIEAaPHOLUSaNESSUSaW",
     "HITE MOON SELENAaBLACK DIAMOND ON CROSSaTRUE LIGHT MOON ARTAaCUPIDOaHADESaZEUSaKRONOSaAPOLLO",
     "NbDMETOSaVULCANUSaPOSEIDONaLEFT HALF BLACK STARaRIGHT HALF BLACK STARaSTAR WITH LEFT HALF BL",
     "ACKkRIGHT HALF BLACKaLEFTWARDS TWO-HEADED ARROW WITH TRIANGLE ARROWHEADSaUPWARDS TWO-HEADED ",
     "ARROW WITH TRIANGLE ARROWHEADSaRIGHTWARDS TWO-HEADED ARROW WITH TRIANGLE ARROWHEADSaDOWNWARD",
     "S TWO-HEADED ARROW WITH TRIANGLE ARROWHEADSaERIS FORM ONEkTWOaSEDNAaRUSSIAN ASTROLOGICAL SYM",
     "BOL VIGINTILEzdNOVILEzdQUINTILEzdBINOVILEzdSENTAGONzdTREDECILEaEQUALS SIGN WITH INFINITY BEL",
     "OWaUNITED SYMBOLaSEPARATED SYMBOLaDOUBLED SYMBOLaPASSED SYMBOLaREVERSED RIGHT ANGLEaHELLSCHR",
     "EIBER PAUSE SYMBOLaGLAGOLITIC CAPITAL LETTER AZUzbBUKYzbVEDEzbGLAGOLIzbDOBROzbYESTUzbZHIVETE",
     "zbDZELOzbZEMLJAzbIZHEzcNITIAL IZHEzczbDJERVIzbKAKOzbLJUDIJEzbMYSLITEzbNASHIzbONUzbPOKOJIzbRI",
     "TSIzbSLOVOzbTVRIDOzbUKUzbFRITUzbHERUzbOTUzbPEzbSHTAzbTSIzbCHRIVIzbSHAzbYERUzeIzcATIzbSPIDERY",
     " HAzbYUzbSMALL YUSzk WITH TAILzbYOzbIOTATED SMALL YUSzbBIG YUSzbIOTATED BIG YUSzbFITAzbIZHIT",
     "SAzbSHTAPICzbTROKUTASTI AzbLATINATE MYSLITEzbCAUDATE CHRIVIlSMALL LETTER AZUyBUKYyVEDEyGLAGO",
     "LIyDOBROyYESTUyZHIVETEyDZELOyZEMLJAyIZHEzaNITIAL IZHEzayDJERVIyKAKOyLJUDIJEyMYSLITEyNASHIyON",
     "UyPOKOJIyRITSIySLOVOyTVRIDOyUKUyFRITUyHERUyOTUyPEySHTAyTSIyCHRIVIySHAyYERUzcIzaATIySPIDERY H",
     "AyYUySMALL YUSzi WITH TAILyYOyIOTATED SMALL YUSyBIG YUSyIOTATED BIG YUSyFITAyIZHITSAySHTAPIC",
     "yTROKUTASTI AyLATINATE MYSLITEyCAUDATE CHRIVIaLATIN CAPITAL LETTER L WITH DOUBLE BARgSMALL L",
     "ETTER L WITH DOUBLE BARgCAPITAL LETTER L WITH MIDDLE TILDEvP WITH STROKEvR WITH TAILgSMALL L",
     "ETTER A WITH STROKEtT WITH DIAGONAL STROKEgCAPITAL LETTER H WITH DESCENDERgSMALL LETTER H WI",
     "TH DESCENDERgCAPITAL LETTER K WITH DESCENDERgSMALL LETTER K WITH DESCENDERgCAPITAL LETTER Z ",
     "WITH DESCENDERgSMALL LETTER Z WITH DESCENDERgCAPITAL LETTER ALPHAvM WITH HOOKvTURNED AzeLPHA",
     "gSMALL LETTER V WITH RIGHT HOOKgCAPITAL LETTER W WITH HOOKgSMALL LETTER W WITH HOOKtV WITH C",
     "URLgCAPITAL LETTER HALF HgSMALL LETTER HALF HtTAILLESS PHItE WITH NOTCHtTURNED R WITH TAILtO",
     " WITH LOW RING INSIDEgLETTER SMALL CAPITAL TURNED EgSUBSCRIPT SMALL LETTER JaMODIFIER LETTER",
     " CAPITAL VaLATIN CAPITAL LETTER S WITH SWASH TAILvZ WITH SWASH TAILaCOPTIC CAPITAL LETTER AL",
     "FAhSMALL LETTER ALFAhCAPITAL LETTER VIDAhSMALL LETTER VIDAhCAPITAL LETTER GAMMAhSMALL LETTER",
     " GAMMAhCAPITAL LETTER DALDAhSMALL LETTER DALDAhCAPITAL LETTER EIEhSMALL LETTER EIEhCAPITAL L",
     "ETTER SOUhSMALL LETTER SOUhCAPITAL LETTER ZATAhSMALL LETTER ZATAhCAPITAL LETTER HATEhSMALL L",
     "ETTER HATEhCAPITAL LETTER THETHEhSMALL LETTER THETHEhCAPITAL LETTER IAUDAhSMALL LETTER IAUDA",
     "hCAPITAL LETTER KAPAhSMALL LETTER KAPAhCAPITAL LETTER LAULAhSMALL LETTER LAULAhCAPITAL LETTE",
     "R MIhSMALL LETTER MIhCAPITAL LETTER NIhSMALL LETTER NIhCAPITAL LETTER KSIhSMALL LETTER KSIhC",
     "APITAL LETTER OhSMALL LETTER OhCAPITAL LETTER PIhSMALL LETTER PIhCAPITAL LETTER ROhSMALL LET",
     "TER ROhCAPITAL LETTER SIMAhSMALL LETTER SIMAhCAPITAL LETTER TAUhSMALL LETTER TAUhCAPITAL LET",
     "TER UAhSMALL LETTER UAhCAPITAL LETTER FIhSMALL LETTER FIhCAPITAL LETTER KHIhSMALL LETTER KHI",
     "hCAPITAL LETTER PSIhSMALL LETTER PSIhCAPITAL LETTER OOUhSMALL LETTER OOUhCAPITAL LETTER DIAL",
     "ECT-P ALEFhSMALL LETTER DIALECT-P ALEFhCAPITAL LETTER OLD COPTIC AINhSMALL LETTER OLD COPTIC",
     " AINhCAPITAL LETTER CRYPTOGRAMMIC EIEhSMALL LETTER CRYPTOGRAMMIC EIEhCAPITAL LETTER DIALECT-",
     "P KAPAhSMALL LETTER DIALECT-P KAPAhCAPITAL LETTER DIALECT-P NIhSMALL LETTER DIALECT-P NIhCAP",
     "ITAL LETTER CRYPTOGRAMMIC NIhSMALL LETTER CRYPTOGRAMMIC NIhCAPITAL LETTER OLD COPTIC OOUhSMA",
     "LL LETTER OLD COPTIC OOUhCAPITAL LETTER SAMPIhSMALL LETTER SAMPIhCAPITAL LETTER CROSSED SHEI",
     "hSMALL LETTER CROSSED SHEIhCAPITAL LETTER OLD COPTIC SHEIhSMALL LETTER OLD COPTIC SHEIhCAPIT",
     "AL LETTER OLD COPTIC ESHhSMALL LETTER OLD COPTIC ESHhCAPITAL LETTER AKHMIMIC KHEIhSMALL LETT",
     "ER AKHMIMIC KHEIhCAPITAL LETTER DIALECT-P HORIhSMALL LETTER DIALECT-P HORIhCAPITAL LETTER OL",
     "D COPTIC HORIhSMALL LETTER OLD COPTIC HORIhCAPITAL LETTER OLD COPTIC HAhSMALL LETTER OLD COP",
     "TIC HAhCAPITAL LETTER L-SHAPED HAhSMALL LETTER L-SHAPED HAhCAPITAL LETTER OLD COPTIC HEIhSMA",
     "LL LETTER OLD COPTIC HEIhCAPITAL LETTER OLD COPTIC HAThSMALL LETTER OLD COPTIC HAThCAPITAL L",
     "ETTER OLD COPTIC GANGIAhSMALL LETTER OLD COPTIC GANGIAhCAPITAL LETTER OLD COPTIC DJAhSMALL L",
     "ETTER OLD COPTIC DJAhCAPITAL LETTER OLD COPTIC SHIMAhSMALL LETTER OLD COPTIC SHIMAhCAPITAL L",
     "ETTER OLD NUBIAN SHIMAhSMALL LETTER OLD NUBIAN SHIMAhCAPITAL LETTER OLD NUBIAN NGIhSMALL LET",
     "TER OLD NUBIAN NGIhCAPITAL LETTER OLD NUBIAN NYIhSMALL LETTER OLD NUBIAN NYIhCAPITAL LETTER ",
     "OLD NUBIAN WAUhSMALL LETTER OLD NUBIAN WAUiYMBOL KAIoMI ROoPI ROoSTAUROSoTAU ROoKHI ROoSHIMA",
     " SIMAhCAPITAL LETTER CRYPTOGRAMMIC SHEIhSMALL LETTER CRYPTOGRAMMIC SHEIhCAPITAL LETTER CRYPT",
     "OGRAMMIC GANGIAhSMALL LETTER CRYPTOGRAMMIC GANGIAhCOMBINING NI ABOVErSPIRITUS ASPERzbLENISiA",
     "PITAL LETTER BOHAIRIC KHEIhSMALL LETTER BOHAIRIC KHEI"]⟩,
   ⟨11513, ["aCOPTIC OLD NUBIAN FULL STOPsDIRECT QUESTION MARKsINDIRECT QUESTION MARKsVERSE DIVIDE",
     "RhFRACTION ONE HALFiULL STOPhMORPHOLOGICAL DIVIDERaGEORGIAN SMALL LETTER ANwBANwGANwDONwENwV",
     "INwZENwTANwINwKANwLASwMANwNARwONwPARwZHARwRAEwSANwTARwUNwPHARwKHARwGHANwQARwSHINwCHINxANwJIL",
     "wCILxHARwXANwJHANwHAExExIEwWEwHARxOE"]⟩,
   ⟨11559, ["aGEORGIAN SMALL LETTER YN"]⟩,
   ⟨11565, ["aGEORGIAN SMALL LETTER AEN"]⟩,
   ⟨11568, ["aTIFINAGH LETTER YAsBtHsGtHHqBERBER ACADEMY YAJqYAJsDtHtDuHrEYrAFsKqTUAREG YAKqYAKHHs",
     "HqBERBER ACADEMY YAHqTUAREG YAHqYAHHsAsKHqTUAREG YAKHqYAQqTUAREG YAQqYIrAZHqAHAGGAR YAZHqTUA",
     "REG YAZHqYALsMsNqTUAREG YAGNzaNGqYAPrUrARtRsGHqTUAREG YAGHqAYER YAGHqYAStStHsTtHsCHsTTsVsWsY",
     "sZqTAWELLEMET YAZqYAZZrErO"]⟩,
   ⟨11631, ["aTIFINAGH MODIFIER LETTER LABIALIZATION MARKjSEPARATOR MARK"]⟩,
   ⟨11647, ["aTIFINAGH CONSONANT JOINERaETHIOPIC SYLLABLE LOAsMOAsROAsSOAtHOAsBOAsTOAsCOAsNOAtYOAs",
     "GLOTTAL OAsZOAsDOAtDOAsJOAsTHOAsCHOAsPHOAtOAsGGWAvIvEEw"]⟩,
   ⟨11680, ["aETHIOPIC SYLLABLE SSAuUuIuAAuEEvuO"]⟩,
   ⟨11688, ["aETHIOPIC SYLLABLE CCAuUuIuAAuEEvuO"]⟩,
   ⟨11696, ["aETHIOPIC SYLLABLE ZZAuUuIuAAuEEvuO"]⟩,
   ⟨11704, ["aETHIOPIC SYLLABLE CCHAvUvIvAAvEEwvO"]⟩,
   ⟨11712, ["aETHIOPIC SYLLABLE QYAuUuIuAAuEEvuO"]⟩,
   ⟨11720, ["aETHIOPIC SYLLABLE KYAuUuIuAAuEEvuO"]⟩,
   ⟨11728, ["aETHIOPIC SYLLABLE XYAuUuIuAAuEEvuO"]⟩,
   ⟨11736, ["aETHIOPIC SYLLABLE GYAuUuIuAAuEEvuO"]⟩,
   ⟨11744, ["aCOMBINING CYRILLIC LETTER BEzbVEzbGHEzbDEzbZHEzcEzbKAzbELzcMzcNzbOzbPEzbERzcSzbTEzbH",
     "AzbTSEzbCHEzbSHAzdCHAzbFITAzbES-TEzbAzbIEzbDJERVzbMONOGRAPH UKzbYATzcUzbIOTIFIED AzbLITTLE Y",
     "USzbBIG YUSzbIOTIFIED BIG YUSaRIGHT ANGLE SUBSTITUTION MARKERmDOTTED SUBSTITUTION MARKERaLEF",
     "T SUBSTITUTION BRACKETaRIGHT SUBSTITUTION BRACKETaLEFT DOTTED SUBSTITUTION BRACKETaRIGHT DOT",
     "TED SUBSTITUTION BRACKETbAISED INTERPOLATION MARKERhDOTTED INTERPOLATION MARKERaDOTTED TRANS",
     "POSITION MARKERaLEFT TRANSPOSITION BRACKETaRIGHT TRANSPOSITION BRACKETbAISED SQUAREaLEFT RAI",
     "SED OMISSION BRACKETaRIGHT RAISED OMISSION BRACKETaEDITORIAL CORONISaPARAGRAPHOSaFORKED PARA",
     "GRAPHOSaREVERSED FORKED PARAGRAPHOSaHYPODIASTOLEaDOTTED OBELOScWNWARDS ANCORAaUPWARDS ANCORA",
     "aDOTTED RIGHT-POINTING ANGLEcUBLE OBLIQUE HYPHENaINVERTED INTERROBANGaPALM BRANCHaHYPHEN WIT",
     "H DIAERESISaTILDE WITH RING ABOVEaLEFT LOW PARAPHRASE BRACKETaRIGHT LOW PARAPHRASE BRACKETaT",
     "ILDE WITH DOT ABOVEpBELOWaLEFT VERTICAL BAR WITH QUILLaRIGHT VERTICAL BAR WITH QUILLaTOP LEF",
     "T HALF BRACKETeRIGHT HALF BRACKETaBOTTOM LEFT HALF BRACKEThRIGHT HALF BRACKETaLEFT SIDEWAYS ",
     "U BRACKETaRIGHT SIDEWAYS U BRACKETaLEFT DOUBLE PARENTHESISaRIGHT DOUBLE PARENTHESISaTWO DOTS",
     " OVER ONE DOT PUNCTUATIONaONE DOT OVER TWO DOTS PUNCTUATIONaSQUARED FOUR DOT PUNCTUATIONaFIV",
     "E DOT MARKaREVERSED QUESTION MARKaVERTICAL TILDEaRING POINTaWORD SEPARATOR MIDDLE DOTaTURNED",
     " COMMAaRAISED DOThCOMMAaTURNED SEMICOLONaDAGGER WITH LEFT GUARDmRIGHT GUARDaTURNED DAGGERbOP",
     " HALF SECTION SIGNbWO-EM DASHbHREE-EM DASHaSTENOGRAPHIC FULL STOPaVERTICAL SIX DOTSaWIGGLY V",
     "ERTICAL LINEaCAPITULUMaDOUBLE HYPHENaREVERSED COMMAaDOUBLE LOW-REVERSED-9 QUOTATION MARKbASH",
     " WITH LEFT UPTURNbOUBLE SUSPENSION MARKaINVERTED LOW KAVYKAt WITH KAVYKA ABOVEaLOW KAVYKAk W",
     "ITH DOTaDOUBLE STACKED COMMAcTTED SOLIDUSaTRIPLE DAGGERaMEDIEVAL COMMAaPARAGRAPHUS MARKbUNCT",
     "US ELEVATUS MARKaCORNISH VERSE DIVIDERbROSS PATTY WITH RIGHT CROSSBARrLEFT CROSSBARaTIRONIAN",
     " SIGN CAPITAL ETaMEDIEVAL EXCLAMATION MARKjQUESTION MARKaLEFT SQUARE BRACKET WITH STROKEaRIG",
     "HT SQUARE BRACKET WITH STROKEaLEFT SQUARE BRACKET WITH DOUBLE STROKEaRIGHT SQUARE BRACKET WI",
     "TH DOUBLE STROKEaTOP HALF LEFT PARENTHESISjRIGHT PARENTHESISaBOTTOM HALF LEFT PARENTHESISmRI",
     "GHT PARENTHESISaOBLIQUE HYPHEN"]⟩,
   ⟨11904, ["aCJK RADICAL REPEATmCLIFFmSECOND ONEtTWOuHREEmPERSONmBOXmTABLEmKNIFE ONEsTWOmDIVINATI",
     "ONmSEALnMALL ONEsTWOmLAME ONErTWOsHREErFOURmSNAKEmTHREADmSNOUT ONEsTWOmHEART ONEsTWOnANDmRA",
     "P"]⟩,
   ⟨11931, ["aCJK RADICAL CHOKEmSUNmMOONmDEATHmMOTHERmCIVILIANmWATER ONEsTWOmFIREmPAW ONEqTWOmSIMP",
     "LIFIED HALF TREE TRUNKmCOWmDOGmJADEmBOLT OF CLOTHmEYEmSPIRIT ONEtTWOmBAMBOOmSILKmC-SIMPLIFIE",
     "D SILKmNET ONEqTWOrHREEqFOURmMESHmSHEEPmRAMmEWEmOLDmBRUSH ONEsTWOmMEATnORTARmGRASS ONEsTWOtH",
     "REEmTIGERmCLOTHESmWEST ONErTWOmC-SIMPLIFIED SEEmSIMPLIFIED HORNmHORNmC-SIMPLIFIED SPEECHzbHE",
     "LLmFOOTmC-SIMPLIFIED CARTmSIMPLIFIED WALKmWALK ONErTWOmCITYn-SIMPLIFIED GOLDmLONG ONErTWOmC-",
     "SIMPLIFIED LONGzaGATEmMOUND ONEsTWOmRAINmBLUEmC-SIMPLIFIED TANNED LEATHERzaLEAFzaWINDzaFLYmE",
     "AT ONEqTWOrHREEmC-SIMPLIFIED EATmHEADmC-SIMPLIFIED HORSEmBONEmGHOSTmC-SIMPLIFIED FISHzaBIRDz",
     "aSALTmSIMPLIFIED WHEATxYELLOWmC-SIMPLIFIED FROGmJ-SIMPLIFIED EVENmC-SIMPLIFIED EVENmJ-SIMPLI",
     "FIED TOOTHmC-SIMPLIFIED TOOTHmJ-SIMPLIFIED DRAGONmC-SIMPLIFIED DRAGONmTURTLEmJ-SIMPLIFIED TU",
     "RTLEmC-SIMPLIFIED TURTLE"]⟩,
   ⟨12032, ["aKANGXI RADICAL ONEpLINEpDOTpSLASHqECONDpHOOKpTWOpLIDpMANpLEGSpENTERqIGHTpDOWN BOXpCO",
     "VERpICEpTABLEpOPEN BOXpKNIFEpPOWERpWRAPpSPOONpRIGHT OPEN BOXpHIDING ENCLOSUREpTENpDIVINATION",
     "pSEALpCLIFFpPRIVATEpAGAINpMOUTHpENCLOSUREqARTHpSCHOLARpGOr SLOWLYpEVENINGpBIGpWOMANpCHILDpRO",
     "OFpINCHpSMALLpLAMEpCORPSEpSPROUTpMOUNTAINpRIVERpWORKpONESELFpTURBANpDRYpSHORT THREADpDOTTED ",
     "CLIFFpLONG STRIDEpTWO HANDSpSHOOTpBOWpSNOUTpBRISTLEpSTEPpHEARTqALBERDpDOORpHANDpBRANCHpRAPpS",
     "CRIPTpDIPPERpAXEpSQUAREpNOTpSUNqAYpMOONpTREEpLACKpSTOPpDEATHpWEAPONpDO NOTpCOMPAREpFURpCLANp",
     "STEAMpWATERpFIREpCLAWpFATHERpDOUBLE XpHALF TREE TRUNKpSLICEpFANGpCOWpDOGpPROFOUNDpJADEpMELON",
     "pTILEpSWEETpLIFEpUSEpFIELDpBOLT OF CLOTHpSICKNESSpDOTTED TENTpWHITEpSKINpDISHpEYEpSPEARpARRO",
     "WpSTONEqPIRITpTRACKpGRAINpCAVEpSTANDpBAMBOOpRICEpSILKpJARpNETpSHEEPpFEATHERpOLDpANDpPLOWpEAR",
     "pBRUSHpMEATqINISTERpSELFpARRIVEpMORTARpTONGUEpOPPOSEpBOATpSTOPPINGpCOLORpGRASSpTIGERpINSECTp",
     "BLOODpWALK ENCLOSUREpCLOTHESpWESTpSEEpHORNpSPEECHpVALLEYpBEANpPIGpBADGERpSHELLpREDqUNpFOOTpB",
     "ODYpCARTpBITTERpMORNINGpWALKpCITYpWINEpDISTINGUISHpVILLAGEpGOLDpLONGpGATEpMOUNDpSLAVEqHORT T",
     "AILED BIRDpRAINpBLUEpWRONGpFACEpLEATHERpTANNED LEATHERpLEEKpSOUNDpLEAFpWINDpFLYpEATpHEADpFRA",
     "GRANTpHORSEpBONEpTALLpHAIRpFIGHTpSACRIFICIAL WINEpCAULDRONpGHOSTpFISHpBIRDpSALTpDEERpWHEATpH",
     "EMPpYELLOWpMILLETpBLACKpEMBROIDERYpFROGpTRIPODpDRUMpRATpNOSEpEVENpTOOTHpDRAGONpTURTLEpFLUT",
     "E"]⟩,
   ⟨12272, ["aIDEOGRAPHIC DESCRIPTION CHARACTER LEFT TO RIGHTzjABOVE TO BELOWzjLEFT TO MIDDLE AND ",
     "RIGHTzjABOVE TO MIDDLE AND BELOWzjFULL SURROUNDzjSURROUND FROM ABOVEzxBELOWzxLEFTzxUPPER LEF",
     "TzzeRIGHTzxLOWER LEFTzjOVERLAID"]⟩]

end FixedExtract.Text
